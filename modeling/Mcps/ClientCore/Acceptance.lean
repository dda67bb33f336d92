import Mcps.ClientCore.Reference
import Mcps.Core.TraceContext

/-!
# What the client signs, the server accepts

The client builds a draft-02 request from arbitrary parameters, signs its preimage and
serializes it; the server reads the bytes again, checks them against the JCS-safe domain,
extracts the envelope and recomputes the preimage.  The two agree on every part that the
signature covers.

They do not agree on the trace members.  The client never looks at them, since the preimage
leaves them out, while the server canonicalizes the whole text.  So a request is accepted
exactly when the numbers in the trace members of its parameters are safe integers.
-/

namespace Mcps.ClientCore

open List Option Except Json Assoc

/-! ## The document the client sends -/

/-- A request around an envelope. -/
def requestWith (id : Value) (method : String) (params : List (String × Value))
    (envelope : Value) : Value :=
  .object [("id", id), ("jsonrpc", .string "2.0"), ("method", .string method),
    ("params", .object (paramsWithEnvelope params envelope))]

/-- The members of the parameters' own `_meta`. -/
def metaMembers (params : List (String × Value)) : List (String × Value) :=
  ((Assoc.find? "_meta" params).bind Json.asObject).getD []

/-- The request envelope with its signature value. -/
def signedEnvelope (inputs : RequestSigningInputs) (signature : String) : Value :=
  (unsignedEnvelope inputs).updateMember "signature"
    (Json.insertMember "value" (.string signature))

section

variable {params : List (String × Value)}

theorem sortedKeys_metaMembers (sorted : (object params).SortedKeys) :
    (object (metaMembers params)).SortedKeys := by
  unfold metaMembers
  cases found : find? "_meta" params with
  | none => simp [Assoc.Ordered]
  | some metaValue =>
    have metaSorted : metaValue.SortedKeys :=
      (sortedKeys_object.mp sorted).2 ("_meta", metaValue) (mem_of_find? found)
    cases metaValue with
    | object members => exact metaSorted
    | _ =>
      simp [asObject, Assoc.Ordered]

theorem paramsWithEnvelope_eq (params : List (String × Value)) (envelope : Value) :
    paramsWithEnvelope params envelope = insert codePointLt "_meta"
      (.object (insert codePointLt requestMetaKey envelope (metaMembers params)))
      (erase "_meta" params) := rfl

theorem sortedKeys_paramsWithEnvelope (sorted : (object params).SortedKeys)
    {envelope : Value} (envelopeSorted : envelope.SortedKeys) :
    (object (paramsWithEnvelope params envelope)).SortedKeys :=
  (sorted.erase "_meta").insert "_meta"
    ((sortedKeys_metaMembers sorted).insert requestMetaKey envelopeSorted)

theorem sortedKeys_requestWith {id : Value} (idSorted : id.SortedKeys) (method : String)
    (sorted : (object params).SortedKeys) {envelope : Value}
    (envelopeSorted : envelope.SortedKeys) :
    (requestWith id method params envelope).SortedKeys := by
  have paramsSorted := sortedKeys_paramsWithEnvelope sorted envelopeSorted
  apply sortedKeys_object.mpr
  constructor
  · simp [Assoc.Ordered]
    decide
  · simp only [forall_mem_cons, not_mem_nil, false_implies, implies_true, and_true]
    exact ⟨idSorted, sortedKeys_string _, sortedKeys_string _, paramsSorted⟩

theorem sortedKeys_bindingValue (binding : AuthorizationBinding) :
    (bindingValue binding).SortedKeys := by
  cases binding with
  | opaqueBytes digestAlg digestValue =>
    simp [bindingValue, Assoc.Ordered]
    decide
  | authzSystemReference system scheme reference digestAlg digestValue =>
    simp [bindingValue, Assoc.Ordered]
    decide

variable (inputs : RequestSigningInputs)

theorem sortedKeys_unsignedEnvelope : (unsignedEnvelope inputs).SortedKeys := by
  have binding := sortedKeys_bindingValue inputs.authorizationBinding
  simp [unsignedEnvelope, Assoc.Ordered, binding]
  decide

theorem sortedKeys_signedEnvelope (signature : String) :
    (signedEnvelope inputs signature).SortedKeys := by
  apply (sortedKeys_unsignedEnvelope inputs).updateMember
  intro block sorted
  cases block with
  | object members => exact sorted.insert "value" (sortedKeys_string signature)
  | _ => exact sorted

theorem locateEnvelope_requestWith (id : Value) (method : String) (envelope : Value) :
    locateEnvelope (requestWith id method params envelope) "params" requestMetaKey =
      .ok envelope := by
  have found : (requestWith id method params envelope).get "params" =
      some (.object (paramsWithEnvelope params envelope)) := rfl
  rw [locateEnvelope, found, bind_some, paramsWithEnvelope_eq, get_insert_self,
    bind_some, get_insert_self, okOr_some]

theorem modifyAt_requestWith (sorted : (object params).SortedKeys) (id : Value)
    (method : String) (envelope : Value) (change : Value → Value) :
    (requestWith id method params envelope).modifyAt EnvelopeLocation.request.signaturePath
        change = requestWith id method params (envelope.updateMember "signature" change) := by
  have paramsOrdered := (sortedKeys_object.mp (sorted.erase "_meta")).1
  have metaOrdered := (sortedKeys_object.mp (sortedKeys_metaMembers sorted)).1
  have inside : (object (paramsWithEnvelope params envelope)).updateMember "_meta"
      (modifyAt [requestMetaKey, "signature"] change) =
        .object (paramsWithEnvelope params (envelope.updateMember "signature" change)) := by
    rw [paramsWithEnvelope_eq, updateMember_insert paramsOrdered, modifyAt,
      updateMember_insert metaOrdered]
    rfl
  change updateMember "params" (updateMember "_meta"
    (modifyAt [requestMetaKey, "signature"] change)) _ = _
  simp [requestWith, updateMember] at inside ⊢
  exact inside

theorem graftSignature_unsignedRequest (sorted : (object params).SortedKeys) (id : Value)
    (method : String) (inputs : RequestSigningInputs) (signature : String) :
    graftSignature (unsignedRequest id method params inputs) signature =
      requestWith id method params (signedEnvelope inputs signature) :=
  modifyAt_requestWith sorted id method (unsignedEnvelope inputs) _

end

/-! ## The preimage -/

section

variable {params : List (String × Value)}

variable (inputs : RequestSigningInputs)

theorem stripSignatureValue_requestWith (sorted : (object params).SortedKeys) (id : Value)
    (method : String) {envelope block : Value} (signed : envelope.get "signature" = some block)
    (isObject : block.asObject.isSome) :
    stripSignatureValue (requestWith id method params envelope) .request =
      .ok (requestWith id method params
        (envelope.updateMember "signature" (removeMember "value"))) := by
  obtain ⟨_, object⟩ := isSome_iff_exists.mp isObject
  rw [stripSignatureValue_eq, locateEnvelope_requestWith, bind_ok, signed,
    okOr_some, bind_ok, object,
    modifyAt_requestWith sorted]
  rfl

theorem requestSigningPreimage_signed (sorted : (object params).SortedKeys) (id : Value)
    (method : String) (inputs : RequestSigningInputs) (signature : String) :
    requestSigningPreimage (requestWith id method params (signedEnvelope inputs signature)) =
      canonicalizeJsonValue (withoutTrace (unsignedRequest id method params inputs)) := by
  have strip := stripSignatureValue_requestWith sorted id method
    (rfl : (signedEnvelope inputs signature).get "signature" = some _) rfl
  rw [requestSigningPreimage, signingPreimage, strip]
  rfl

theorem requestSigningPreimage_unsigned (sorted : (object params).SortedKeys) (id : Value)
    (method : String) (inputs : RequestSigningInputs) :
    requestSigningPreimage (unsignedRequest id method params inputs) =
      canonicalizeJsonValue (withoutTrace (unsignedRequest id method params inputs)) := by
  have strip := stripSignatureValue_requestWith sorted id method
    (rfl : (unsignedEnvelope inputs).get "signature" = some _) rfl
  change (stripSignatureValue (requestWith id method params _) .request >>= _) = _
  rw [strip]
  rfl

end

/-! ## Extracting the envelope again -/

/-- A binding whose fields are not empty and whose digest algorithm is SHA-256. -/
def WellFormedBinding : AuthorizationBinding → Prop
  | .opaqueBytes digestAlg digestValue =>
    digestAlg = digestAlgSha256 ∧ digestValue.isEmpty = false
  | .authzSystemReference authorizationSystemId referenceSchemeId referenceValue digestAlg
      digestValue =>
      authorizationSystemId.isEmpty = false ∧ referenceSchemeId.isEmpty = false ∧
        referenceValue.isEmpty = false ∧ digestAlg = digestAlgSha256 ∧
        digestValue.isEmpty = false

theorem readBinding_bindingValue (binding : AuthorizationBinding) :
    readBinding (bindingValue binding) = binding := by
  cases binding <;> rfl

theorem checkAuthorizationBinding_bindingValue {binding : AuthorizationBinding} {raw : Value}
    (held : raw.get "authorization_binding" = some (bindingValue binding))
    (wellFormed : WellFormedBinding binding) : checkAuthorizationBinding raw = .ok () := by
  rw [checkAuthorizationBinding, held]
  cases binding with
  | opaqueBytes digestAlg digestValue =>
    obtain ⟨rfl, value⟩ := wellFormed
    change (if (!(true && (true && (!digestValue.isEmpty && true)))) = true then _ else _) = _
    rw [value]
    rfl
  | authzSystemReference system scheme reference digestAlg digestValue =>
    obtain ⟨systemText, schemeText, referenceText, rfl, value⟩ := wellFormed
    change (if (!(true && (!system.isEmpty && (!scheme.isEmpty && (!reference.isEmpty &&
      (true && (!digestValue.isEmpty && true)))))) ) = true then _ else _) = _
    rw [systemText, schemeText, referenceText, value]
    rfl

/-- The envelope the server reads. -/
def readEnvelope (inputs : RequestSigningInputs) (signature : String) :
    Draft02RequestEnvelope where
  version := versionDraft02
  canonicalizationId := inputs.canonicalizationId
  signer := inputs.signer
  onBehalfOf := inputs.onBehalfOf
  audience := inputs.audience
  authorizationBinding := inputs.authorizationBinding
  nonce := inputs.nonce
  issuedAt := inputs.issuedAt
  expiresAt := inputs.expiresAt
  signature := ⟨sigAlgEd25519, inputs.keyId, some signature⟩

theorem checkStruct_signedEnvelope (inputs : RequestSigningInputs) (signature : String) :
    checkStruct draft02RequestEnvelopeFields (signedEnvelope inputs signature) = .ok () := by
  obtain ⟨_, _, _, _, binding, _, _, _, _⟩ := inputs
  cases binding <;> rfl

theorem extractDraft02RequestEnvelope_signed {params : List (String × Value)} (id : Value)
    (method : String) {inputs : RequestSigningInputs} (signature : String)
    (wellFormed : WellFormedBinding inputs.authorizationBinding)
    (allowed : checkCanonicalizationId inputs.canonicalizationId = .ok ()) :
    extractDraft02RequestEnvelope
        (requestWith id method params (signedEnvelope inputs signature)) =
      .ok (readEnvelope inputs signature) := by
  have inAllowlist : inputs.canonicalizationId ∈ draft02CanonicalizationAllowlist := by
    unfold checkCanonicalizationId at allowed
    split at allowed
    · cases allowed
    · split at allowed
      · rename_i contained
        exact contains_iff_mem.mp contained
      · cases allowed
  have scheme : Mcps.checkCanonicalizationId (signedEnvelope inputs signature) = .ok () := by
    change classifyCanonicalizationId inputs.canonicalizationId _ _ = _
    rw [classifyCanonicalizationId, if_pos inAllowlist]
  have binding : checkAuthorizationBinding (signedEnvelope inputs signature) = .ok () :=
    checkAuthorizationBinding_bindingValue rfl wellFormed
  have fields : deserializeEnvelope draft02RequestEnvelopeFields
      (signedEnvelope inputs signature) = .ok () :=
    deserializeEnvelope_eq_ok.mpr (checkStruct_signedEnvelope inputs signature)
  have version : requireDraft02Version (signedEnvelope inputs signature) = .ok () := rfl
  rw [extractDraft02RequestEnvelope, locateEnvelope_requestWith, bind_ok, version, scheme, binding, fields]
  exact congrArg (fun binding => ok
    { readEnvelope inputs signature with authorizationBinding := binding })
    (readBinding_bindingValue inputs.authorizationBinding)

/-! ## Safe numbers -/

/-- The numbers in the trace members of the parameters are safe integers. -/
def TraceSafe (params : List (String × Value)) : Prop :=
  ∀ member ∈ metaMembers params, member.1 ∈ observabilityMetaKeys →
    member.2.Everywhere SafeNumber

/-- The numbers in the trace members of a `_meta` are safe integers. -/
def TraceNumbers (metaValue : Value) : Prop :=
  ∀ members, metaValue = .object members → ∀ member ∈ members,
    member.1 ∈ observabilityMetaKeys → member.2.Everywhere SafeNumber

theorem everywhere_safeNumber_removeTrace {metaValue : Value} (trace : TraceNumbers metaValue) :
    (removeTrace metaValue).Everywhere SafeNumber ↔ metaValue.Everywhere SafeNumber := by
  cases metaValue with
  | object members =>
    have safe := trace members rfl
    rw [removeTrace_object, everywhere_object, everywhere_object]
    refine and_congr Iff.rfl ?_
    simp only [mem_filter]
    grind
  | _ => exact Iff.rfl

theorem traceNumbers_of_everywhere {metaValue : Value}
    (safe : metaValue.Everywhere SafeNumber) : TraceNumbers metaValue := by
  rintro members rfl member held _
  exact (everywhere_object.mp safe).2 member held

section

variable {params : List (String × Value)} {id : Value} {method : String}

theorem everyAt_metaPath_requestWith (sorted : (object params).SortedKeys)
    (envelope : Value) :
    (requestWith id method params envelope).EveryAt EnvelopeLocation.request.metaPath
      TraceNumbers ↔ TraceSafe params := by
  have paramsOrdered := (sortedKeys_object.mp (sorted.erase "_meta")).1
  have metaOrdered := (sortedKeys_object.mp (sortedKeys_metaMembers sorted)).1
  have envelopeKey : requestMetaKey ∉ observabilityMetaKeys := by decide
  have own : TraceNumbers (.object
      (insert codePointLt requestMetaKey envelope (metaMembers params))) ↔
        TraceSafe params := by
    constructor
    · intro trace member held named
      apply trace _ rfl member ?_ named
      apply metaOrdered.mem_insert_iff.mpr
      refine .inr ⟨held, ?_⟩
      rintro same
      rw [same] at named
      exact envelopeKey named
    · rintro safe members same member held named
      cases same
      rcases metaOrdered.mem_insert_iff.mp held with rfl | ⟨inside, _⟩
      · exact absurd named envelopeKey
      · exact safe member inside named
  rw [← own]
  constructor
  · intro every
    have atParams := every ("params", .object (paramsWithEnvelope params envelope))
      (by simp) rfl
    exact atParams ("_meta", _) (paramsOrdered.mem_insert_iff.mpr (.inl rfl)) rfl
  · rintro trace member held named
    have isParams : member.2 = .object (paramsWithEnvelope params envelope) := by
      simp only [mem_cons, not_mem_nil, or_false] at held
      rcases held with rfl | rfl | rfl | rfl
      · exact absurd named (show "id" ≠ "params" by decide)
      · exact absurd named (show "jsonrpc" ≠ "params" by decide)
      · exact absurd named (show "method" ≠ "params" by decide)
      · rfl
    rw [isParams]
    rintro inner inside isMeta
    rcases paramsOrdered.mem_insert_iff.mp inside with rfl | ⟨_, other⟩
    · exact trace
    · exact absurd isMeta other

theorem everywhere_safeNumber_requestWith (sorted : (object params).SortedKeys)
    {envelope : Value} (safe : envelope.Everywhere SafeNumber) :
    (requestWith id method params envelope).Everywhere SafeNumber ↔
      id.Everywhere SafeNumber ∧
      (∀ member ∈ params, member.1 ≠ "_meta" → member.2.Everywhere SafeNumber) ∧
      ∀ member ∈ metaMembers params, member.1 ≠ requestMetaKey →
        member.2.Everywhere SafeNumber := by
  have paramsOrdered := (sortedKeys_object.mp (sorted.erase "_meta")).1
  have metaOrdered := (sortedKeys_object.mp (sortedKeys_metaMembers sorted)).1
  have text : ∀ text : String, (string text : Value).Everywhere SafeNumber :=
    fun _ => trivial
  have inside : (object (paramsWithEnvelope params envelope)).Everywhere SafeNumber ↔
      (∀ member ∈ params, member.1 ≠ "_meta" → member.2.Everywhere SafeNumber) ∧
      ∀ member ∈ metaMembers params, member.1 ≠ requestMetaKey →
        member.2.Everywhere SafeNumber := by
    have node : ∀ members : List (String × Value), SafeNumber (.object members) := fun _ => trivial
    simp only [paramsWithEnvelope_eq, everywhere_object, node, true_and,
      paramsOrdered.mem_insert_iff, metaOrdered.mem_insert_iff, mem_erase,
      forall_eq_or_imp, and_imp, safe]
    constructor
    · rintro ⟨own, others⟩
      exact ⟨fun member held other => others member held other other, own⟩
    · rintro ⟨others, own⟩
      exact ⟨own, fun member held other _ => others member held other⟩
  rw [requestWith, ← inside]
  simp [SafeNumber, text]

variable (inputs : RequestSigningInputs)

theorem everywhere_safeNumber_unsignedEnvelope :
    (unsignedEnvelope inputs).Everywhere SafeNumber := by
  obtain ⟨_, _, _, _, binding, _, _, _, _⟩ := inputs
  cases binding <;> simp [unsignedEnvelope, bindingValue, Json.Everywhere,
    Json.EverywhereMembers, SafeNumber]

theorem everywhere_safeNumber_signedEnvelope (signature : String) :
    (signedEnvelope inputs signature).Everywhere SafeNumber := by
  have block : (insertMember "value" (.string signature) (.object
      [("alg", .string sigAlgEd25519), ("key_id", .string inputs.keyId)]) : Value) =
        .object [("alg", .string sigAlgEd25519), ("key_id", .string inputs.keyId),
          ("value", .string signature)] := rfl
  apply (everywhere_updateMember (fun _ _ _ => Iff.rfl) ?_).mpr
    (everywhere_safeNumber_unsignedEnvelope inputs)
  rintro member held named
  have isBlock : member.2 = .object
      [("alg", .string sigAlgEd25519), ("key_id", .string inputs.keyId)] := by
    simp only [mem_cons] at held
    grind
  rw [isBlock, block]
  simp [Json.Everywhere, Json.EverywhereMembers, SafeNumber]

theorem everywhere_safeNumber_signed_iff (idSorted : id.SortedKeys)
    (sorted : (object params).SortedKeys) {inputs : RequestSigningInputs} {preimage : Bytes}
    (preimaged : requestSigningPreimage (unsignedRequest id method params inputs) = .ok preimage)
    (signature : String) :
    (requestWith id method params (signedEnvelope inputs signature)).Everywhere SafeNumber ↔
      TraceSafe params := by
  have unsigned : (withoutTrace (unsignedRequest id method params inputs)).Everywhere
      SafeNumber := by
    rw [requestSigningPreimage_unsigned sorted] at preimaged
    let document : MapValue := ⟨withoutTrace (unsignedRequest id method params inputs),
      sortedKeys_withoutTrace (sortedKeys_requestWith idSorted method sorted
        (sortedKeys_unsignedEnvelope inputs))⟩
    exact (jcsSafe_iff.mp ((canonicalizeJsonValue_isOk_iff document).mp ⟨_, preimaged⟩)).1
  have signs : (requestWith id method params (signedEnvelope inputs signature)).Everywhere
      SafeNumber ↔ (unsignedRequest id method params inputs).Everywhere SafeNumber := by
    change _ ↔ (requestWith id method params (unsignedEnvelope inputs)).Everywhere SafeNumber
    rw [everywhere_safeNumber_requestWith sorted
        (everywhere_safeNumber_signedEnvelope inputs signature),
      everywhere_safeNumber_requestWith sorted (everywhere_safeNumber_unsignedEnvelope inputs)]
  rw [signs]
  constructor
  · intro safe
    exact (everyAt_metaPath_requestWith sorted _).mp
      ((everyAt_of_everywhere safe _).imp fun _ => traceNumbers_of_everywhere)
  · intro trace
    have carries := (@everyAt_metaPath_requestWith params id method sorted
      (unsignedEnvelope inputs)).mpr trace
    exact (everywhere_modifyAt (fun _ _ _ => Iff.rfl)
      (carries.imp fun _ => everywhere_safeNumber_removeTrace)).mp unsigned

end

/-! ## Acceptance -/

theorem checkFreshness_eq_ok_iff {issuedAt expiresAt : String} {issued expires now skew : Int}
    (issuedParsed : parseRfc3339Utc issuedAt = .ok issued)
    (expiresParsed : parseRfc3339Utc expiresAt = .ok expires) (ordered : issued ≤ expires) :
    checkFreshness issuedAt expiresAt now skew = .ok () ↔
      saturatingSub issued skew ≤ now ∧ now ≤ saturatingAdd expires skew := by
  rw [checkFreshness, issuedParsed, bind_ok, expiresParsed, bind_ok, if_neg (not_lt.mpr ordered)]
  constructor
  · intro fresh
    obtain ⟨inside, _⟩ := guard_eq_ok.mp fresh
    simpa using inside
  · rintro ⟨low, high⟩
    apply guard_eq_ok.mpr
    exact ⟨by simp [low, high], rfl⟩

section

variable [Crates]

/-- What a built request consists of. -/
theorem buildSignedRequest_eq_ok {id : Value} {method : String} {params : List (String × Value)}
    {inputs : RequestSigningInputs} {sign : Bytes → String} {request : SignedRequest}
    (sorted : (object params).SortedKeys)
    (built : buildSignedRequest id method params inputs sign = .ok request) :
    checkCanonicalizationId inputs.canonicalizationId = .ok () ∧
      ∃ preimage, requestSigningPreimage (unsignedRequest id method params inputs) =
        .ok preimage ∧
      request.object = requestWith id method params (signedEnvelope inputs (sign preimage)) ∧
      requestHash request.object = .ok request.requestHash ∧
      Crates.toVec request.object = some request.wireBytes := by
  rcases buildSignedRequestWith_eq_ok built with
    ⟨allowed, preimage, _, preimaged, signed, shape, hashed, written⟩
  cases signed
  exact ⟨allowed, preimage, preimaged,
    shape.trans (graftSignature_unsignedRequest sorted id method inputs _), hashed, written⟩

/-- Evidence with a fresh nonce and a request hash is accepted. -/
theorem acceptFresh_of_fresh {σ : Type} [ReplayCache σ] {evidence : RequestEvidence} {replay : σ}
    {hash : String}
    (unseen : (ReplayCache.checkAndInsert evidence.claims.verifiedSigner evidence.claims.audience
      evidence.claims.nonce evidence.expiresAtUnix replay).1 = .ok .fresh)
    (hashed : requestHash evidence.value = .ok hash) :
    (acceptFresh evidence replay).1 = .ok ⟨evidence.claims, hash⟩ := by
  unfold acceptFresh
  dsimp only
  generalize ReplayCache.checkAndInsert evidence.claims.verifiedSigner evidence.claims.audience
    evidence.claims.nonce evidence.expiresAtUnix replay = decision at unseen ⊢
  obtain ⟨_, _⟩ := decision
  cases unseen
  simp only [hashed]
  rfl

section

variable {id : MapValue} {method : String} {params : List (String × Value)}
  {inputs : RequestSigningInputs} {sign : Bytes → String} {request : SignedRequest}
  {key : VerificationKey} {resolver : TrustResolver} {config : VerificationConfig} {now : Int}
  {issued expires : Int}

/-- The evidence a server collects from a safe request, up to the freshness window. -/
theorem requestEvidenceDraft02_of_safe {preimage : Bytes}
    (signs : ∀ message, verifyEd25519 message (sign message) key = .ok ())
    (nonNull : id.val ≠ .null) (sorted : (object params).SortedKeys)
    (principal : inputs.onBehalfOf.isEmpty = false)
    (wellFormed : WellFormedBinding inputs.authorizationBinding)
    (allowed : checkCanonicalizationId inputs.canonicalizationId = .ok ())
    (preimaged : requestSigningPreimage (unsignedRequest id.val method params inputs) =
      .ok preimage)
    (shape : request.object =
      requestWith id.val method params (signedEnvelope inputs (sign preimage)))
    (audience : config.expectedAudience = inputs.audience)
    (resolves : resolver inputs.signer inputs.keyId = .ok key)
    (expiry : parseRfc3339Utc inputs.expiresAt = .ok expires) {message : MapValue}
    (isObject : message.val = request.object)
    (read : Crates.fromSlice request.wireBytes = some message)
    (canonical : ∃ bytes, canonicalize request.wireBytes = .ok bytes) :
    requestEvidenceDraft02 request.wireBytes resolver config now =
      (checkFreshness inputs.issuedAt inputs.expiresAt now config.maxClockSkewSecs).bind
        fun _ => .ok ⟨request.object, (readEnvelope inputs (sign preimage)).claims, expires⟩ := by
  have parsed : parseMessage request.wireBytes = .ok request.object := by
    have found : message.val.get "id" = some id.val := by
      rw [isObject, shape]
      rfl
    rw [parseMessage_of_id read found nonNull, isObject]
  obtain ⟨_, canonical⟩ := canonical
  have extracted : extractDraft02RequestEnvelope request.object =
      .ok (readEnvelope inputs (sign preimage)) := by
    rw [shape]
    exact extractDraft02RequestEnvelope_signed id.val method _ wellFormed allowed
  have covered : requestSigningPreimage request.object = .ok preimage := by
    rw [shape, requestSigningPreimage_signed sorted, ← requestSigningPreimage_unsigned sorted,
      preimaged]
  have claims : checkClaims request.object (readEnvelope inputs (sign preimage)).claims
      (readEnvelope inputs (sign preimage)).signature resolver config now =
        (checkFreshness inputs.issuedAt inputs.expiresAt now config.maxClockSkewSecs).bind
          fun _ => .ok expires := by
    have delegated : checkOnBehalfOf inputs.onBehalfOf = .ok () := by
      rw [checkOnBehalfOf, principal]
      rfl
    have block : checkSignatureBlock sigAlgEd25519 (some (sign preimage)) = .ok () := rfl
    simp only [checkClaims, Draft02RequestEnvelope.claims, readEnvelope, delegated,
      bind_ok, audience, ne_eq, resolves, Except.mapError,
      covered, okOr_some, signs, expiry]
    rfl
  rw [requestEvidenceDraft02, parsed, bind_ok, canonical, bind_ok, extracted, bind_ok, claims]
  cases checkFreshness inputs.issuedAt inputs.expiresAt now config.maxClockSkewSecs <;> rfl

/-- What the client builds, the server accepts with the same request hash, exactly when
the numbers in the trace members of the parameters are safe integers and the tolerated
clock skew does not narrow the signed window past `now`. -/
theorem verifyRequestDraft02_buildSignedRequest_iff {spell : Number → List Char}
    {numberOf : List Char → Option Number} (writes : SerdeWrites spell numberOf)
    (reads : SerdeReads numberOf)
    (signs : ∀ message, verifyEd25519 message (sign message) key = .ok ())
    (nonNull : id.val ≠ .null) (sorted : (Json.object params).SortedKeys)
    (principal : inputs.onBehalfOf.isEmpty = false)
    (wellFormed : WellFormedBinding inputs.authorizationBinding)
    (built : buildSignedRequest id.val method params inputs sign = .ok request)
    (shallow : request.object.depth ≤ serdeRecursionLimit)
    (audience : config.expectedAudience = inputs.audience)
    (resolves : resolver inputs.signer inputs.keyId = .ok key)
    (issuance : parseRfc3339Utc inputs.issuedAt = .ok issued)
    (expiry : parseRfc3339Utc inputs.expiresAt = .ok expires)
    (begun : issued ≤ now) (valid : now ≤ expires) {σ : Type} [ReplayCache σ] {replay : σ}
    (unseen : (ReplayCache.checkAndInsert inputs.signer inputs.audience inputs.nonce expires
      replay).1 = .ok .fresh) :
    (∃ verified, (verifyRequestDraft02 request.wireBytes resolver replay config now).1 =
        .ok verified ∧ verified.requestHash = request.requestHash) ↔
      TraceSafe params ∧ saturatingSub issued config.maxClockSkewSecs ≤ now ∧
        now ≤ saturatingAdd expires config.maxClockSkewSecs := by
  rcases buildSignedRequest_eq_ok sorted built with
    ⟨allowed, preimage, preimaged, shape, hashed, written⟩
  let message : MapValue := ⟨request.object, shape ▸ sortedKeys_requestWith id.property method
    sorted (sortedKeys_signedEnvelope inputs _)⟩
  have messageWritten : Crates.toVec message.val = some request.wireBytes := written
  have safe_iff : message.val.Everywhere SafeNumber ↔ TraceSafe params := by
    change request.object.Everywhere SafeNumber ↔ _
    rw [shape]
    exact everywhere_safeNumber_signed_iff id.property sorted preimaged _
  have canonical_iff := writes.canonicalize_isOk_iff messageWritten
  rw [verifyRequestDraft02]
  by_cases safe : TraceSafe params
  · have numbers := safe_iff.mpr safe
    have canonical := canonical_iff.mpr ⟨numbers, shallow.trans (by decide)⟩
    rw [requestEvidenceDraft02_of_safe signs nonNull sorted principal wellFormed allowed preimaged
      shape audience resolves expiry rfl
      (writes.fromSlice_eq reads messageWritten numbers shallow) canonical]
    rw [← checkFreshness_eq_ok_iff issuance expiry (begun.trans valid)]
    cases fresh : checkFreshness inputs.issuedAt inputs.expiresAt now config.maxClockSkewSecs with
    | error e =>
      constructor
      · rintro ⟨_, accepted, _⟩
        cases accepted
      · rintro ⟨_, passed⟩
        cases passed
    | ok _ =>
      refine iff_of_true ⟨⟨(readEnvelope inputs (sign preimage)).claims, request.requestHash⟩,
        ?_, rfl⟩ ⟨safe, rfl⟩
      exact acceptFresh_of_fresh unseen hashed
  · refine iff_of_false ?_ fun holds => safe holds.1
    rintro ⟨verified, accepted, _⟩
    rcases acceptEvidence_ok (Prod.ext accepted rfl) with ⟨evidence, collected, _⟩
    rcases Except.bind_eq_ok.mp collected with ⟨_, _, collected⟩
    rcases Except.bind_eq_ok.mp collected with ⟨bytes, canonical, _⟩
    exact safe (safe_iff.mp (canonical_iff.mp ⟨bytes, canonical⟩).1)

end

end

/-! ## A call with and without a trace -/

/-- A `_meta` whose trace is no text but a number. -/
def numericTrace : List (String × Value) :=
  [("_meta", .object [("traceparent", .number half)])]

def agentKey : VerificationKey := ⟨(b64urlDecodeText vectorKey).getD []⟩

def agentSign (preimage : Bytes) : String :=
  referenceSignature callSignatures agentKey.inner preimage

/-- The signed call around parameters. -/
def signedCall (own : List (String × Value)) : Value :=
  requestWith (.string "req-1") "tools/call" (callParams own)
    (signedEnvelope callInputs callSignature)

theorem sortedKeys_callParams : (object (callParams [])).SortedKeys := by
  decide +kernel

theorem sortedKeys_tracedParams : (object (callParams numericTrace)).SortedKeys := by
  decide +kernel

/-- Put 0.5 in the place of the text `"#"`. -/
def spliceHalf : Bytes → Bytes
  | 34 :: 35 :: 34 :: rest => 48 :: 46 :: 53 :: rest
  | byte :: rest => byte :: spliceHalf rest
  | [] => []

/-- The text of the signed call with the numeric trace. -/
def tracedBytes : Bytes :=
  spliceHalf (bytesOf (signedCall [("_meta", .object [("traceparent", .string "#")])]))

/-- The signed call, and the one with the numeric trace. -/
def callDocuments : List (Bytes × MapValue) :=
  [(bytesOf (signedCall []), ⟨signedCall [], sortedKeys_requestWith (Json.sortedKeys_string _) _
      sortedKeys_callParams (sortedKeys_signedEnvelope _ _)⟩),
    (tracedBytes, ⟨signedCall numericTrace, sortedKeys_requestWith (Json.sortedKeys_string _) _
      sortedKeys_tracedParams (sortedKeys_signedEnvelope _ _)⟩)]

@[reducible] def acceptanceCrates : Crates :=
  documentReader (documentCrates callCrates callDocuments)

theorem serdeWrites_acceptanceCrates :
    @SerdeWrites acceptanceCrates spellNumber numberOfSpelling :=
  serdeWrites_documentReader callCrates (by decide +kernel)

theorem callSignatures_length :
    ∀ entry ∈ callSignatures, (b64urlDecodeText entry.signature).map length = some 64 := by
  decide +kernel

/-- The request the client builds from the call's parameters. -/
def builtCall (own : List (String × Value)) (wire : Bytes) : SignedRequest :=
  ⟨wire, callRequestHash, signedCall own⟩

def callConfig : VerificationConfig := ⟨toolsAudience.toAudienceString, 300⟩

/-- The call is built and accepted. -/
theorem verifyRequestDraft02_buildSignedRequest_call :
    letI := acceptanceCrates
    buildSignedRequest (.string "req-1") "tools/call" (callParams []) callInputs agentSign =
      .ok (builtCall [] (bytesOf (signedCall []))) ∧
    ∃ verified, (verifyRequestDraft02 (bytesOf (signedCall [])) vectorResolver
        (InMemoryReplayCache.new 300) callConfig 1779998460).1 = .ok verified ∧
      verified.requestHash = (builtCall [] (bytesOf (signedCall []))).requestHash := by
  let crates := acceptanceCrates
  have built : buildSignedRequest (.string "req-1") "tools/call" (callParams []) callInputs
      agentSign = .ok (builtCall [] (bytesOf (signedCall []))) := by
    decide +kernel
  have signs : ∀ message, verifyEd25519 message (agentSign message) agentKey = .ok () :=
    fun message => verifyEd25519With_referenceSignature
      "Nvf-uMW1AEKxqJu3x2BMUTajFQETV-GlQRaRBHwECxA" callSignatures [] callSignatures_length
      agentKey message .invalidSignature
  refine ⟨built, ?_⟩
  apply (@verifyRequestDraft02_buildSignedRequest_iff crates
    ⟨.string "req-1", Json.sortedKeys_string _⟩ "tools/call" (callParams []) callInputs agentSign
    (builtCall [] (bytesOf (signedCall []))) agentKey vectorResolver callConfig 1779998460
    1779998400 1779998700 _ _ serdeWrites_acceptanceCrates
    (serdeReads_documentReader _)
    signs (by nofun) sortedKeys_callParams rfl ⟨rfl, rfl⟩ built (by decide +kernel) rfl
    (by decide +kernel) (by decide +kernel) (by decide +kernel) (by decide) (by decide)
    InMemoryReplayCache _ (.new 300) rfl).mpr
  exact ⟨by simp [TraceSafe, metaMembers, callParams, Assoc.find?], by decide, by decide⟩

/-- With a number for its trace the call is built as well, and then refused. -/
theorem verifyRequestDraft02_refuses_numericTrace :
    letI := acceptanceCrates
    buildSignedRequest (.string "req-1") "tools/call" (callParams numericTrace) callInputs
        agentSign = .ok (builtCall numericTrace tracedBytes) ∧
      (signedCall numericTrace).depth ≤ serdeRecursionLimit ∧
      (Crates.fromSlice tracedBytes).map Subtype.val = some (signedCall numericTrace) ∧
      (verifyRequestDraft02 tracedBytes vectorResolver (InMemoryReplayCache.new 300) callConfig
        1779998460).1 = .error .canonicalizationFailed := by
  let crates := acceptanceCrates
  decide +kernel

end Mcps.ClientCore
