import Mcps.Proxy.WrapUnwrap
import Mcps.Sdk.Reference

/-!
# What the session is delivered

The proxy wraps the inner server's outcome before it signs it; the Python adapter strips
the envelope from a verified response and delivers the rest.  It does not take the wrapper
off again, so the session sees the inner server's own outcome only where there was nothing
to wrap and nothing to scrub.
-/

namespace Mcps.Sdk

open ClientCore Proxy List Option Json Assoc

/-! ## Outcomes to evaluate -/

/-- The inner server's outcome for the call. -/
def successOutcome : MapValue :=
  ⟨.object [("id", .string "req-1"), ("jsonrpc", .string "2.0"),
    ("result", .object [successMember])], by decide⟩

/-- The sidecar of the remote end. -/
def remoteProxy : Proxy where
  signer preimage := some
    (referenceSignature callSignatures ((b64urlDecodeText remoteKey).getD []) preimage)
  serverSigner := "did:example:server-1"
  keyId := "server-key-1"
  resolver := vectorResolver
  config := ⟨toolsAudience.toAudienceString, 300⟩
  versionPolicy := .draft02Only
  inner _ := bytesOf successOutcome.val
  policy := none
  transportBinding := none
  lbAssertion := none
  logSink := false

/-- The call as the sidecar has verified it. -/
def callVerified : VerifiedRequest where
  verifiedSigner := "did:example:agent-1"
  keyId := "key-1"
  onBehalfOf := "did:example:user-1"
  audience := toolsAudience.toAudienceString
  authorization := .draft02Binding callBinding
  nonce := "Zm9vYmFyYmF6cXV4MTIzNDU2Nzg5MA"
  issuedAt := "2026-05-28T20:00:00Z"
  expiresAt := "2026-05-28T20:05:00Z"
  canonicalizationId := some canonicalizationIdInt53V1
  requestHash := callSigned.requestHash

/-- The signed response around the success. -/
def successResponse : MapValue :=
  ⟨callResponse successMember [("value", .string successSignature)], by decide +kernel⟩

@[reducible] def successCrates : Crates :=
  documentCrates callCrates [(bytesOf successOutcome.val, successOutcome),
    (bytesOf successResponse.val, successResponse)]

/-! ## Stripping -/

theorem stripResult_mapNumbers {ν μ : Type} (image : ν → μ) (tree : Json ν) :
    stripResult (tree.mapNumbers image) = (stripResult tree).mapNumbers image := by
  cases tree with
  | null | bool _ | number _ | string _ | array _ => rfl
  | object members =>
    rw [mapNumbers, stripResult, stripResult, find?_mapMembers]
    cases find? "_meta" members with
    | none => rfl
    | some metaValue =>
      cases metaValue with
      | null | bool _ | number _ | string _ | array _ => rfl
      | object metaMembers =>
        simp only [map_some, mapNumbers, erase_mapMembers]
        cases erase responseMetaKey metaMembers with
        | nil => simp [mapMembers, mapNumbers]
        | cons member rest =>
          simp only [mapMembers_eq_map, updateMember, map_cons,
            isEmpty_cons, Bool.false_eq_true, ↓reduceIte, mapNumbers,
            List.map_map, object.injEq]
          apply map_congr_left
          intro entry _
          by_cases here : entry.1 = "_meta" <;>
            simp [here, mapNumbers, mapMembers_eq_map]

theorem stripResult_pyValue (value : Value) :
    stripResult (pyValue value) = pyValue (stripResult value) :=
  stripResult_mapNumbers pyNumber value

variable {members metaMembers : List (String × Value)}

theorem stripResult_resultWith (membersOrdered : Assoc.Ordered codePointLt members)
    (unowned : find? responseMetaKey metaMembers = none) (envelope : Value) :
    stripResult (resultWith members metaMembers envelope) =
      .object (if metaMembers = [] then erase "_meta" members
        else insert codePointLt "_meta" (.object metaMembers) members) := by
  rw [resultWith, stripResult, find?_insert_self]
  simp only [erase_insert_self, erase_of_find?_none unowned, List.isEmpty_iff,
    updateMember_insert membersOrdered]
  split <;> rfl

theorem find?_scrubMembers_owned {key : String} (owned : key ∈ proxyOwnedMetaKeys)
    (members : List (String × Value)) : find? key (scrubMembers true members) = none := by
  apply find?_eq_none_iff.mpr
  intro member held
  rw [scrubMembers_eq_map] at held
  obtain ⟨_, kept, rfl⟩ := mem_map.mp held
  rintro rfl
  have keeps := (mem_filter.mp kept).2
  simp [keepsMember, owned] at keeps

/-- An object without a `_meta` that is null or has no members. -/
def dropEmptyMeta : Value → Value
  | .object members =>
    match Assoc.find? "_meta" members with
    | some .null | some (.object []) => .object (Assoc.erase "_meta" members)
    | _ => .object members
  | other => other

theorem stripResult_emitted {inner : MapValue} (indexes : outcomeMeta inner.val = some metaMembers)
    (envelope : Value) :
    stripResult (resultWith (scrubMembers false (outcomeMembers inner.val))
        (scrubMembers true metaMembers) envelope) =
      dropEmptyMeta (scrubProxyOwnedMeta (.object (outcomeMembers inner.val))) := by
  have ordered := ordered_scrubMembers false (sortedKeys_outcomeMembers inner.property)
  have held := indexable_scrubbed_meta inner.val
  rw [indexes] at held
  rw [stripResult_resultWith ordered (find?_scrubMembers_owned (by decide) metaMembers),
    scrubProxyOwnedMeta, scrubAt_object, dropEmptyMeta]
  cases found : find? "_meta" (scrubMembers false (outcomeMembers inner.val)) with
  | none =>
    rw [found] at held
    rw [← some.inj held, if_pos rfl, erase_of_find?_none found]
  | some metaValue =>
    rw [found] at held
    cases metaValue with
    | null => rw [← some.inj held, if_pos rfl]
    | object others =>
      cases held
      cases left : scrubMembers true metaMembers with
      | nil => rw [if_pos rfl]
      | cons member rest =>
        rw [left] at found
        rw [if_neg (cons_ne_nil member rest), insert_of_find? ordered found]
    | _ => cases held

/-! ## Delivery -/

/-- The message is the inner server's own outcome: a success with its result, or an error
where it sent none. -/
def DeliversOutcome (inner : Value) (message : SessionMessage) : Prop :=
  match inner.get "result" with
  | some result => message.root.get "result" = some (pyValue result) ∧
      message.root.get "error" = none
  | none => (message.root.get "error").isSome ∧ message.root.get "result" = none

theorem locateEnvelope_emitted (id inner : Value) (metaMembers fields : List (String × Value))
    (block : Value) :
    locateEnvelope (emitted id inner metaMembers fields block) "result" responseMetaKey =
      .ok (.object (insert codePointLt "signature" block fields)) := by
  simp [locateEnvelope, emitted, get_responseWith, resultWith]

section

variable [Crates] [Python] {proxy : Proxy} {verified : VerifiedRequest} {now nowUnix : Int}
  {id inner : MapValue} {innerResponse bytes : Bytes} {config : McpsConfig}
  {correlation : CorrelationStore} {message : SessionMessage}

theorem get_delivered (text : JsonText) (read : Crates.fromSlice innerResponse = some inner)
    (built : proxy.buildSignedResponse innerResponse verified now id.val = .ok bytes)
    (accepted : (verifyInbound config correlation bytes nowUnix).1 = .ok (.accept message)) :
    message.root.get "error" = none ∧
      message.root.get "result" = some (pyValue
        (dropEmptyMeta (scrubProxyOwnedMeta (.object (outcomeMembers inner.val))))) := by
  rcases buildSignedResponse_eq_ok read built with
    ⟨metaMembers, fields, signature, indexes, described, _, written⟩
  have sorted := sortedKeys_emitted described id.property indexes
    (sortedKeys_signedBlock proxy signature)
  obtain ⟨_, other⟩ | ⟨_, _, other⟩ | ⟨_, members, _, _, same, loaded, _, _, delivered⟩ :=
    verifyInbound_eq_ok accepted
  · cases other
  · cases other
  cases same
  have evidence := deliver_eq_accept delivered
  have document : ∃ value jcs, Crates.fromSlice bytes = some value ∧ parse bytes = .ok jcs := by
    apply verifySignedResponse_parses rfl
    rcases evidence with ⟨verifies, _⟩ | ⟨missing, _⟩
    · exact .inl verifies
    · exact .inr missing
  obtain ⟨value, jcs, taken, parsed⟩ := document
  have converted := @JsonText.written _ text ⟨_, sorted⟩ _ _ written parsed
  have obj : object members =
      pyValue (emitted id.val inner.val metaMembers fields (proxy.signedBlock signature)) := by
    rw [pyValue_of_fromSerdeValue converted]
    rw [loads, parsed] at loaded
    change dictMembers (jcs.intoMaps.mapNumbers .int) = .ok members at loaded
    cases tree : jcs.intoMaps.mapNumbers PyNumber.int with
    | object others =>
      rw [tree] at loaded
      cases loaded
      rfl
    | _ =>
      rw [tree] at loaded
      cases loaded
  rcases evidence with ⟨_, stripped⟩ | ⟨missing, _⟩
  · rw [stripped, obj, ← stripResult_emitted indexes
      (.object (insert codePointLt "signature" (proxy.signedBlock signature) fields)),
      ← stripResult_pyValue]
    exact ⟨rfl, rfl⟩
  · have same : value =
        ⟨emitted id.val inner.val metaMembers fields (proxy.signedBlock signature), sorted⟩ :=
      Subtype.ext (fromSerdeValue_injective
        (@JsonText.read _ text _ ⟨_, sorted⟩ _ _ written taken parsed) converted)
    subst same
    exact absurd missing (verifySignedResponse_ne_missingEnvelope taken
      (locateEnvelope_emitted _ _ _ _ _) (get_insert_self _ _ _) _ _)

/-- An object result is delivered as a success with the same result, but for the
proxy-owned keys of every `_meta` in it and for its own `_meta` if that is null or has no
members left. -/
theorem verifyInbound_delivers_object (text : JsonText) {members : List (String × Value)}
    (read : Crates.fromSlice innerResponse = some inner)
    (found : inner.val.get "result" = some (.object members))
    (built : proxy.buildSignedResponse innerResponse verified now id.val = .ok bytes)
    (accepted : (verifyInbound config correlation bytes nowUnix).1 = .ok (.accept message)) :
    message.root.get "error" = none ∧
      message.root.get "result" =
        some (pyValue (dropEmptyMeta (scrubProxyOwnedMeta (.object members)))) := by
  have outcome : outcomeMembers inner.val = members := by
    rw [outcomeMembers, found]
  rw [← outcome]
  exact get_delivered text read built accepted

end

/-- The success is delivered as it was. -/
theorem verifyInbound_delivers_success :
    letI := successCrates
    letI := callPython
    remoteProxy.buildSignedResponse (bytesOf successOutcome.val) callVerified 1779998460
        (.string "req-1") = .ok (bytesOf successResponse.val) ∧
      (verifyInbound callConfig callStore (bytesOf successResponse.val) 1779998461).1 =
        .ok (.accept ⟨pyValue successOutcome.val⟩) ∧
      (pyValue successOutcome.val).get "error" = none ∧
      (pyValue successOutcome.val).get "result" = some (pyValue
        (dropEmptyMeta (scrubProxyOwnedMeta (.object [successMember])))) := by
  let crates := successCrates
  let python := callPython
  have text : JsonText := by
    apply jsonText_documentCrates
    decide +kernel
  have evaluated :
      Crates.fromSlice (bytesOf successOutcome.val) = some successOutcome ∧
      remoteProxy.buildSignedResponse (bytesOf successOutcome.val) callVerified 1779998460
        (.string "req-1") = .ok (bytesOf successResponse.val) ∧
      (verifyInbound callConfig callStore (bytesOf successResponse.val) 1779998461).1 =
        .ok (.accept ⟨pyValue successOutcome.val⟩) := by
    decide +kernel
  rcases evaluated with ⟨read, built, accepted⟩
  exact ⟨built, accepted, @verifyInbound_delivers_object _ _ _ _ _ _ ⟨.string "req-1", trivial⟩
    _ _ _ _ _ _ text _ read rfl built accepted⟩

/-- The success with a proxy-owned key in its `_meta`. -/
def forgedOutcome : MapValue :=
  ⟨.object [("id", .string "req-1"), ("jsonrpc", .string "2.0"), ("result", .object
    [("_meta", .object [("se.syncom/mcps.verified", .string "forged")]), successMember])],
    by decide⟩

/-- The session is delivered the success without the key, and so not the inner server's
own outcome. -/
theorem verifyInbound_delivers_scrubbed :
    letI := callCrates
    letI := callPython
    remoteProxy.buildSignedResponse (bytesOf forgedOutcome.val) callVerified 1779998460
        (.string "req-1") = .ok (replyWith successMember successSignature) ∧
      (verifyInbound callConfig callStore (replyWith successMember successSignature)
        1779998461).1 = .ok (.accept ⟨pyValue successOutcome.val⟩) ∧
      ¬ DeliversOutcome forgedOutcome.val ⟨pyValue successOutcome.val⟩ := by
  let crates := callCrates
  let python := callPython
  have evaluated :
      remoteProxy.buildSignedResponse (bytesOf forgedOutcome.val) callVerified 1779998460
        (.string "req-1") = .ok (replyWith successMember successSignature) ∧
      (verifyInbound callConfig callStore (replyWith successMember successSignature)
        1779998461).1 = .ok (.accept ⟨pyValue successOutcome.val⟩) := by
    decide +kernel
  refine ⟨evaluated.1, evaluated.2, ?_⟩
  rintro ⟨delivered, _⟩
  exact absurd delivered (by decide +kernel)

end Mcps.Sdk
