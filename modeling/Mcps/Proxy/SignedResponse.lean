import Mcps.Proxy.FailClosed

/-!
# The shape of a signed response

What `buildSignedResponse` emits, in closed form: the wrapped and scrubbed outcome of the
inner server with one envelope in its `_meta`.  Indexing reaches that place exactly when
the outcome's own `_meta` is absent, null or an object; the preimage of the response is
the canonical form of the same document without signature value and trace keys, so it
exists exactly for the outcomes whose signed part is safe.
-/

namespace Mcps.Proxy

open List Option Except Json Assoc

/-- A response around a result. -/
def responseWith (id result : Value) : Value :=
  .object [("id", id), ("jsonrpc", .string "2.0"), ("result", result)]

/-- A result with an envelope in its `_meta`. -/
def resultWith (members metaMembers : List (String × Value)) (envelope : Value) : Value :=
  .object (Assoc.insert codePointLt "_meta"
    (.object (Assoc.insert codePointLt responseMetaKey envelope metaMembers)) members)

variable (id result : Value)

theorem get_responseWith : (responseWith id result).get "result" = some result := rfl

/-- The signature block of a signed response. -/
def signedBlock (proxy : Proxy) (signature : String) : Value :=
  .object [("alg", .string sigAlgEd25519), ("key_id", .string proxy.keyId),
    ("value", .string signature)]

variable (proxy : Proxy)

theorem sortedKeys_unsignedBlock : proxy.unsignedBlock.SortedKeys := by
  simp [unsignedBlock, Assoc.Ordered]
  decide

theorem sortedKeys_signedBlock (signature : String) : (proxy.signedBlock signature).SortedKeys := by
  simp [signedBlock, Assoc.Ordered]
  decide

/-- An envelope is a signature block among fields that hold texts. -/
structure EnvelopeFields (proxy : Proxy) (verified : VerifiedRequest) (now : Int)
    (fields : List (String × Value)) : Prop where
  ordered : Assoc.Ordered codePointLt fields
  texts : ∀ member ∈ fields, ∃ text, member.2 = .string text
  bound : Assoc.find? "request_hash" fields = some (.string verified.requestHash)
  envelope : ∀ block, proxy.responseEnvelope verified now block =
    .ok (.object (Assoc.insert codePointLt "signature" block fields))

theorem exists_envelopeFields {verified : VerifiedRequest}
    (identified : ∀ binding, verified.authorization = .draft02Binding binding →
      verified.canonicalizationId.isSome) (proxy : Proxy) (now : Int) :
    ∃ fields, proxy.EnvelopeFields verified now fields := by
  cases authorization : verified.authorization with
  | draft01Hash authorizationHash =>
    refine ⟨[("issued_at", .string (unixToRfc3339Utc now)),
      ("request_hash", .string verified.requestHash),
      ("server_signer", .string proxy.serverSigner)], ?_, ?_, rfl, ?_⟩
    · simp [Assoc.Ordered]
      decide
    · simp
    · intro block
      rw [responseEnvelope, authorization]
      rfl
  | draft02Binding binding =>
    obtain ⟨id, held⟩ := isSome_iff_exists.mp (identified binding authorization)
    refine ⟨[("canonicalization_id", .string id), ("issued_at", .string (unixToRfc3339Utc now)),
      ("request_hash", .string verified.requestHash),
      ("server_signer", .string proxy.serverSigner),
      ("version", .string versionDraft02)], ?_, ?_, rfl, ?_⟩
    · simp [Assoc.Ordered]
      decide
    · simp
    · intro block
      rw [responseEnvelope, authorization, held]
      rfl

/-! ## Indexing into a response -/

theorem indexMut_responseWith (path : List String) (change : Value → Value) :
    indexMut ("result" :: path) change (responseWith id result) =
      (indexMut path change result).map (responseWith id) := by
  rfl

variable {members metaMembers : List (String × Value)}

theorem indexMut_attach
    (indexes : indexable ((find? "_meta" members).getD .null) = some metaMembers)
    (id envelope : Value) :
    indexMut ["result", "_meta", responseMetaKey] (fun _ => envelope)
        (responseWith id (.object members)) =
      .ok (responseWith id (resultWith members metaMembers envelope)) := by
  rw [indexMut_responseWith, indexMut_cons rfl, indexMut_cons indexes]
  rfl

theorem indexMut_attach_panics
    (unindexed : indexable ((find? "_meta" members).getD .null) = none)
    (id envelope : Value) :
    indexMut ["result", "_meta", responseMetaKey] (fun _ => envelope)
        (responseWith id (.object members)) = .error (.cannotAccessKey responseMetaKey) := by
  rw [indexMut_responseWith, indexMut_cons rfl, indexMut_panics unindexed]
  rfl

/-- Filling in the signature of an attached envelope. -/
theorem indexMut_sign (id : Value) (members metaMembers fields : List (String × Value))
    (signature : String) :
    indexMut ["result", "_meta", responseMetaKey, "signature", "value"]
        (fun _ => .string signature) (responseWith id (resultWith members metaMembers
          (.object (insert codePointLt "signature" proxy.unsignedBlock fields)))) =
      .ok (responseWith id (resultWith members metaMembers
        (.object (insert codePointLt "signature" (proxy.signedBlock signature) fields)))) := by
  rw [indexMut_responseWith, indexMut_cons rfl, find?_insert_self, indexMut_cons rfl, find?_insert_self,
    indexMut_cons rfl, find?_insert_self]
  simp only [insert_insert]
  rfl

/-! ## The preimage -/

/-- The members of a `_meta` without the trace keys. -/
def withoutTrace (metaMembers : List (String × Value)) : List (String × Value) :=
  observabilityMetaKeys.foldl (fun members key => Assoc.erase key members) metaMembers

theorem mem_withoutTrace {member : String × Value} :
    member ∈ withoutTrace metaMembers ↔
      member ∈ metaMembers ∧ member.1 ∉ observabilityMetaKeys := by
  simp [withoutTrace, observabilityMetaKeys, mem_erase]
  tauto

theorem sortedKeys_withoutTrace (sorted : (object metaMembers).SortedKeys) :
    (object (withoutTrace metaMembers)).SortedKeys :=
  ((sorted.erase _).erase _).erase _

theorem withoutTrace_insert (ordered : Assoc.Ordered codePointLt metaMembers) (envelope : Value) :
    withoutTrace (insert codePointLt responseMetaKey envelope metaMembers) =
      insert codePointLt responseMetaKey envelope (withoutTrace metaMembers) := by
  simp only [withoutTrace, observabilityMetaKeys, foldl_cons, foldl_nil]
  rw [erase_insert_ne ordered (by decide), erase_insert_ne (ordered.erase _)
    (by decide), erase_insert_ne ((ordered.erase _).erase _) (by decide)]

theorem modifyAt_responseWith (path : List String) (change : Value → Value) :
    (responseWith id result).modifyAt ("result" :: path) change =
      responseWith id (result.modifyAt path change) := by
  simp [responseWith, modifyAt, updateMember]

section

variable {members metaMembers fields : List (String × Value)}

variable (proxy : Proxy)

/-- A signed response and the response it was made from have one preimage: the canonical
form without trace keys and signature value. -/
theorem responseSigningPreimage_responseWith (id : Value) {block : Value}
    (membersOrdered : Assoc.Ordered codePointLt members)
    (metaOrdered : Assoc.Ordered codePointLt metaMembers)
    (fieldsOrdered : Assoc.Ordered codePointLt fields) (isObject : block.asObject.isSome)
    (stripped : block.removeMember "value" = proxy.unsignedBlock) :
    responseSigningPreimage (responseWith id (resultWith members metaMembers
        (.object (insert codePointLt "signature" block fields)))) =
      canonicalizeJsonValue (responseWith id (resultWith members (withoutTrace metaMembers)
        (.object (insert codePointLt "signature" proxy.unsignedBlock fields)))) := by
  obtain ⟨_, object⟩ := isSome_iff_exists.mp isObject
  have strip : stripSignatureValue (responseWith id (resultWith members metaMembers
      (.object (insert codePointLt "signature" block fields)))) .response =
      .ok (responseWith id (resultWith members metaMembers
        (.object (insert codePointLt "signature" proxy.unsignedBlock fields)))) := by
    simp only [stripSignatureValue, EnvelopeLocation.containerKey, EnvelopeLocation.metaKey,
      get_responseWith, resultWith, get_insert_self, okOr_some, bind_ok, object,
      pure_eq_ok, EnvelopeLocation.signaturePath, modifyAt_responseWith]
    simp only [modifyAt, updateMember_insert membersOrdered,
      updateMember_insert metaOrdered, updateMember_insert fieldsOrdered, stripped]
  unfold responseSigningPreimage signingPreimage
  rw [strip, bind_ok]
  unfold stripObservabilityMeta
  rw [EnvelopeLocation.metaPath, EnvelopeLocation.containerKey, modifyAt_responseWith, resultWith,
    modifyAt, updateMember_insert membersOrdered, modifyAt]
  have erased : observabilityMetaKeys.foldl (fun metaValue key => metaValue.removeMember key)
      (.object (insert codePointLt responseMetaKey
        (.object (insert codePointLt "signature" proxy.unsignedBlock fields)) metaMembers)) =
      Json.object (withoutTrace (insert codePointLt responseMetaKey
        (.object (insert codePointLt "signature" proxy.unsignedBlock fields))
        metaMembers)) := rfl
  rw [erased, withoutTrace_insert metaOrdered, ← resultWith]

theorem jcsSafe_envelope (owned ignored : List String) (levels : Nat)
    (fieldsOrdered : Assoc.Ordered codePointLt fields)
    (texts : ∀ member ∈ fields, ∃ text, member.2 = .string text) :
    JcsSafe owned (levels + 2) ignored
      (.object (insert codePointLt "signature" proxy.unsignedBlock fields)) := by
  apply jcsSafe_object.mpr
  intro member held
  right
  rcases fieldsOrdered.mem_insert_iff.mp held with rfl | ⟨inside, _⟩
  · apply jcsSafe_object.mpr
    simp
  · obtain ⟨_, same⟩ := texts member inside
    rw [same]
    exact jcsSafe_string _ _ _ _

/-- A response is safe when its id, its payload and the rest of its `_meta` are. -/
theorem jcsSafe_responseWith (id : Value) (membersOrdered : Assoc.Ordered codePointLt members)
    (metaOrdered : Assoc.Ordered codePointLt metaMembers)
    (fieldsOrdered : Assoc.Ordered codePointLt fields)
    (texts : ∀ member ∈ fields, ∃ text, member.2 = .string text) :
    JcsSafe [] maxParseDepth [] (responseWith id (resultWith members metaMembers
        (.object (insert codePointLt "signature" proxy.unsignedBlock fields)))) ↔
      JcsSafe [] 127 [] id ∧
      (∀ member ∈ members, member.1 ≠ "_meta" → JcsSafe [] 126 [] member.2) ∧
      ∀ member ∈ metaMembers, member.1 ≠ responseMetaKey → JcsSafe [] 125 [] member.2 := by
  have result : JcsSafe [] 127 [] (resultWith members metaMembers
        (.object (insert codePointLt "signature" proxy.unsignedBlock fields))) ↔
      (∀ member ∈ members, member.1 ≠ "_meta" → JcsSafe [] 126 [] member.2) ∧
      ∀ member ∈ metaMembers, member.1 ≠ responseMetaKey → JcsSafe [] 125 [] member.2 := by
    rw [resultWith, jcsSafe_object]
    simp only [membersOrdered.mem_insert_iff, forall_eq_or_imp]
    rw [jcsSafe_object]
    simp only [metaOrdered.mem_insert_iff, not_mem_nil, false_or, ite_self,
      forall_eq_or_imp, and_imp]
    have envelope := jcsSafe_envelope proxy [] [] 123 fieldsOrdered texts
    constructor
    · rintro ⟨⟨_, rest⟩, payload⟩
      exact ⟨payload, rest⟩
    · rintro ⟨payload, rest⟩
      exact ⟨⟨envelope, rest⟩, payload⟩
  rw [← result, maxParseDepth, responseWith, jcsSafe_object]
  simp

end

/-! ## Safety of what the inner server sent -/

variable (own : Bool)

theorem mem_ignored_iff (key : String) :
    key ∈ (if own then proxyOwnedMetaKeys else []) ↔ keepsMember own key = false := by
  cases own with
  | true | false => simp [keepsMember]

theorem jcsSafe_scrubAt {value : Value} {own : Bool} {levels : Nat} :
    JcsSafe [] levels [] (scrubAt own value) ↔
      JcsSafe proxyOwnedMetaKeys levels (if own then proxyOwnedMetaKeys else []) value := by
  induction value using inductionOn generalizing own levels with
  | null | bool _ | number _ | string _ => simp [scrubAt, JcsSafe]
  | array items ih =>
    rw [scrubAt, JcsSafe, JcsSafe, jcsSafeItems_iff, jcsSafeItems_iff, scrubItems_eq_map,
      List.forall_mem_map]
    refine and_congr_right fun _ => forall₂_congr fun item member => ?_
    exact ih item member
  | object members ih =>
    rw [scrubAt, JcsSafe, JcsSafe, jcsSafeMembers_iff, jcsSafeMembers_iff, scrubMembers_eq_map,
      List.forall_mem_map]
    refine and_congr_right fun _ => ?_
    simp only [mem_filter, and_imp, ite_self]
    refine forall₂_congr fun member held => ?_
    rw [ih member held, mem_ignored_iff]
    cases keepsMember own member.1 with
    | true | false => simp

/-! ## The emitted response -/

theorem sortedKeys_outcomeMembers {inner : Value} (sorted : inner.SortedKeys) :
    (object (outcomeMembers inner)).SortedKeys := by
  unfold outcomeMembers
  split
  · rename_i found
    exact sorted.get found
  · rename_i found
    simpa [Assoc.Ordered] using sorted.get found
  · simpa [Assoc.Ordered] using sorted

/-- The members of the outcome's own `_meta`, if indexing can get there. -/
def outcomeMeta (inner : Value) : Option (List (String × Value)) :=
  indexable ((Assoc.find? "_meta" (outcomeMembers inner)).getD .null)

theorem indexable_scrubAt (value : Value) :
    indexable (scrubAt own value) = (indexable value).map (scrubMembers own) := by
  cases value <;> rfl

theorem indexable_scrubbed_meta (inner : Value) :
    indexable ((find? "_meta" (scrubMembers false (outcomeMembers inner))).getD .null) =
      (outcomeMeta inner).map (scrubMembers true) := by
  rw [outcomeMeta, ← indexable_scrubAt, find?_scrubMembers rfl]
  cases find? "_meta" (outcomeMembers inner) <;> rfl

theorem sortedKeys_outcomeMeta {inner : Value} (sorted : inner.SortedKeys)
    (indexes : outcomeMeta inner = some metaMembers) : (object metaMembers).SortedKeys := by
  apply sortedKeys_of_indexable ?_ indexes
  cases found : find? "_meta" (outcomeMembers inner) with
  | none => exact sortedKeys_null
  | some value => exact (sortedKeys_outcomeMembers sorted).get found

theorem ordered_scrubMembers (sorted : (object members).SortedKeys) :
    Assoc.Ordered codePointLt (scrubMembers own members) :=
  (sortedKeys_object.mp (sortedKeys_scrubAt sorted own)).1

/-- The document the proxy emits around a signature block. -/
def emitted (id inner : Value) (metaMembers fields : List (String × Value)) (block : Value) :
    Value :=
  responseWith id (resultWith (scrubMembers false (outcomeMembers inner))
    (scrubMembers true metaMembers)
    (.object (Assoc.insert codePointLt "signature" block fields)))

section

variable {proxy : Proxy} {verified : VerifiedRequest} {now : Int} {id : Value} {inner : MapValue}
  {metaMembers fields : List (String × Value)}

variable {block : Value}

theorem sortedKeys_envelope (described : proxy.EnvelopeFields verified now fields)
    (sorted : block.SortedKeys) :
    (object (insert codePointLt "signature" block fields)).SortedKeys := by
  have fieldsSorted : (object fields).SortedKeys := by
    apply sortedKeys_object.mpr
    constructor
    · exact described.ordered
    · intro member held
      obtain ⟨text, same⟩ := described.texts member held
      rw [same]
      exact sortedKeys_string text
  exact fieldsSorted.insert "signature" sorted

theorem sortedKeys_responseWith {members : List (String × Value)} {envelope : Value}
    (idSorted : id.SortedKeys) (membersSorted : (object members).SortedKeys)
    (metaSorted : (object metaMembers).SortedKeys) (envelopeSorted : envelope.SortedKeys) :
    (responseWith id (resultWith members metaMembers envelope)).SortedKeys := by
  have result := membersSorted.insert "_meta" (metaSorted.insert responseMetaKey envelopeSorted)
  apply sortedKeys_object.mpr
  constructor
  · simp [Assoc.Ordered]
    decide
  · simp only [forall_mem_cons, not_mem_nil, false_implies, implies_true, and_true]
    exact ⟨idSorted, sortedKeys_string "2.0", result⟩

theorem sortedKeys_emitted (described : proxy.EnvelopeFields verified now fields)
    (idSorted : id.SortedKeys) (indexes : outcomeMeta inner.val = some metaMembers)
    (blockSorted : block.SortedKeys) : (emitted id inner.val metaMembers fields block).SortedKeys :=
  sortedKeys_responseWith idSorted
    (sortedKeys_scrubAt (sortedKeys_outcomeMembers inner.property) false)
    (sortedKeys_scrubAt (sortedKeys_outcomeMeta inner.property indexes) true)
    (sortedKeys_envelope described blockSorted)

theorem emitted_preimage (described : proxy.EnvelopeFields verified now fields)
    (indexes : outcomeMeta inner.val = some metaMembers) (isObject : block.asObject.isSome)
    (stripped : block.removeMember "value" = proxy.unsignedBlock) :
    responseSigningPreimage (emitted id inner.val metaMembers fields block) =
      canonicalizeJsonValue (responseWith id
        (resultWith (scrubMembers false (outcomeMembers inner.val))
          (withoutTrace (scrubMembers true metaMembers))
          (.object (insert codePointLt "signature" proxy.unsignedBlock fields)))) :=
  responseSigningPreimage_responseWith proxy id
    (ordered_scrubMembers false (sortedKeys_outcomeMembers inner.property))
    (ordered_scrubMembers true (sortedKeys_outcomeMeta inner.property indexes))
    described.ordered isObject stripped

/-- Sign and serialize the emitted document. -/
def signEmitted [Crates] (proxy : Proxy) (id inner : Value)
    (fields metaMembers : List (String × Value)) : Except Stop Bytes := do
  let unsigned := emitted id inner metaMembers fields proxy.unsignedBlock
  let preimage ← (responseSigningPreimage unsigned).mapError .error
  let signature ← (proxy.signer preimage).okOr (.error .responseSigInvalid)
  let signed := emitted id inner metaMembers fields (proxy.signedBlock signature)
  (Crates.toVec signed).okOr (.error .canonicalizationFailed)

/-- The steps of `buildSignedResponse` once the inner response is read. -/
theorem buildSignedResponse_eq [Crates] (described : proxy.EnvelopeFields verified now fields)
    {innerResponse : Bytes} (read : Crates.fromSlice innerResponse = some inner) :
    proxy.buildSignedResponse innerResponse verified now id =
      (outcomeMeta inner.val).elim (.error (.panic (.cannotAccessKey responseMetaKey)))
        (proxy.signEmitted id inner.val fields) := by
  have meta_eq := indexable_scrubbed_meta inner.val
  unfold buildSignedResponse
  rw [read, buildResponseEnvelope, described.envelope]
  simp only [okOr_some, bind_ok, scrubProxyOwnedMeta, scrubAt_object, Except.mapError]
  rw [← responseWith]
  cases indexes : outcomeMeta inner.val with
  | none =>
    rw [indexes] at meta_eq
    rw [indexMut_attach_panics meta_eq]
    rfl
  | some metaMembers =>
    rw [indexes] at meta_eq
    rw [indexMut_attach meta_eq]
    simp only [bind_ok, indexMut_sign]
    rfl

end

end Mcps.Proxy
