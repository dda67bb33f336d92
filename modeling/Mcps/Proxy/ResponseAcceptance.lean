import Mcps.ClientCore.Response
import Mcps.Core.DocumentReference
import Mcps.Proxy.WrapUnwrap

/-!
# What the proxy signs, the client accepts

The proxy signs an arbitrary payload of the inner server inside its own document, and the
client parses the bytes anew, extracts the envelope and recomputes the preimage.  If the
payload's numbers are safe integers, every response that is emitted and can be parsed again
is accepted under the profile of the request, with the request's own id.
-/

namespace Mcps.Proxy

open List Option Except Json

/-! ## Verified requests -/

section

variable [Crates] {σ : Type} [ReplayCache σ]

/-- The request was verified under one of the two profiles. -/
def AcceptedRequest (requestBytes : Bytes) (resolver : TrustResolver) (replay : σ)
    (config : VerificationConfig) (now : Int) (verified : VerifiedRequest) : Prop :=
  (verifyRequest requestBytes resolver replay config now).1 = .ok verified ∨
    (verifyRequestDraft02 requestBytes resolver replay config now).1 = .ok verified

theorem requestId_ne_null {requestBytes : Bytes} {value : Value}
    (parsed : parseMessage requestBytes = .ok value) : requestId requestBytes ≠ .null := by
  simp only [parseMessage, bind_eq_ok] at parsed
  obtain ⟨_, read, _, _, _, identified, _⟩ := parsed
  rw [requestId, okOr_eq_ok.mp read, bind_some]
  rw [rejectNotification] at identified
  split at identified
  · cases identified
  · cases identified
  · rename_i value other found
    rw [found]
    intro null
    exact other (null ▸ rfl)

omit [Crates] in
theorem scheme_of_extractDraft02RequestEnvelope {value : Value}
    {envelope : Draft02RequestEnvelope}
    (extracted : extractDraft02RequestEnvelope value = .ok envelope) :
    envelope.canonicalizationId ∈ draft02CanonicalizationAllowlist := by
  simp only [extractDraft02RequestEnvelope, bind_eq_ok] at extracted
  obtain ⟨_, _, _, _, _, scheme, _, _, _, _, same⟩ := extracted
  cases same
  unfold checkCanonicalizationId at scheme
  split at scheme
  · rename_i id found
    obtain ⟨_, got, isText⟩ := bind_eq_some_iff.mp found
    obtain ⟨members, rfl, held⟩ := get_eq_some got
    have text : fieldText draft02RequestEnvelopeFields (.object members)
        "canonicalization_id" = id := by
      simp [fieldText, fieldValue, held, isText]
    unfold classifyCanonicalizationId at scheme
    split at scheme
    · rename_i allowed
      exact text.symm ▸ allowed
    · split at scheme
      · cases scheme
      · cases scheme
  · cases scheme

/-- What the proxy relies on about a request that was verified. -/
structure Answerable (requestBytes : Bytes) (verified : VerifiedRequest) : Prop where
  known : Verified requestBytes verified
  identified : requestId requestBytes ≠ .null
  scheme : ∀ binding, verified.authorization = .draft02Binding binding →
    ∃ id ∈ draft02CanonicalizationAllowlist, verified.canonicalizationId = some id

theorem AcceptedRequest.answerable {requestBytes : Bytes} {resolver : TrustResolver} {replay : σ}
    {config : VerificationConfig} {now : Int} {verified : VerifiedRequest}
    (accepted : AcceptedRequest requestBytes resolver replay config now verified) :
    Answerable requestBytes verified := by
  rcases accepted with accepted | accepted
  · obtain ⟨evidence, collected, claims, _⟩ := acceptEvidence_ok (Prod.ext accepted rfl)
    have established := requestEvidence_eq_ok collected
    simp only [requestEvidence, bind_eq_ok] at collected
    obtain ⟨_, parsed, _, _, _, _, _, _, _, _, same⟩ := collected
    refine ⟨RequestEvidence.verified established claims, requestId_ne_null parsed, ?_⟩
    intro binding authorization
    cases same
    rw [claims] at authorization
    cases authorization
  · obtain ⟨evidence, collected, claims, _⟩ := acceptEvidence_ok (Prod.ext accepted rfl)
    have established := requestEvidenceDraft02_eq_ok collected
    simp only [requestEvidenceDraft02, bind_eq_ok] at collected
    obtain ⟨_, parsed, _, _, envelope, extracted, _, _, same⟩ := collected
    refine ⟨RequestEvidence.verified established claims, requestId_ne_null parsed, ?_⟩
    intro binding authorization
    cases same
    refine ⟨envelope.canonicalizationId, scheme_of_extractDraft02RequestEnvelope extracted, ?_⟩
    rw [claims]
    rfl

end

/-! ## Safe numbers -/

theorem everywhere_safeNumber_scrubAt {value : Value} (safe : value.Everywhere SafeNumber)
    (own : Bool) : (scrubAt own value).Everywhere SafeNumber := by
  induction value using inductionOn generalizing own with
  | null | bool _ | number _ | string _ => exact safe
  | array items ih =>
    have every := (everywhere_array.mp safe).2
    rw [scrubAt, scrubItems_eq_map, everywhere_array, List.forall_mem_map]
    exact ⟨trivial, fun item held => ih item held (every item held) false⟩
  | object members ih =>
    have every := (everywhere_object.mp safe).2
    rw [scrubAt_object, scrubMembers_eq_map, everywhere_object, List.forall_mem_map]
    refine ⟨trivial, fun member kept => ?_⟩
    have held := mem_of_mem_filter kept
    exact ih member held (every member held) _

theorem everywhere_safeNumber_get {value member : Value} {key : String}
    (safe : value.Everywhere SafeNumber) (found : value.get key = some member) :
    member.Everywhere SafeNumber := by
  obtain ⟨_, rfl, held⟩ := get_eq_some found
  exact (everywhere_object.mp safe).2 (key, member) (Assoc.mem_of_find? held)

theorem everywhere_safeNumber_outcomeMembers {inner : Value}
    (safe : inner.Everywhere SafeNumber) :
    (object (outcomeMembers inner)).Everywhere SafeNumber := by
  have single : ∀ (key : String) {value : Value}, value.Everywhere SafeNumber →
      (object [(key, value)]).Everywhere SafeNumber := by
    intro key value valueSafe
    apply everywhere_object.mpr
    exact ⟨trivial, forall_mem_singleton.mpr valueSafe⟩
  unfold outcomeMembers
  split
  · rename_i found
    exact everywhere_safeNumber_get safe found
  · rename_i found
    exact single _ (everywhere_safeNumber_get safe found)
  · exact single _ safe

theorem everywhere_safeNumber_outcomeMeta {inner : Value} (safe : inner.Everywhere SafeNumber)
    {metaMembers : List (String × Value)} (indexes : outcomeMeta inner = some metaMembers) :
    (object metaMembers).Everywhere SafeNumber := by
  have outcome := everywhere_safeNumber_outcomeMembers safe
  unfold outcomeMeta at indexes
  cases found : Assoc.find? "_meta" (outcomeMembers inner) with
  | none =>
    rw [found] at indexes
    cases indexes
    exact everywhere_object.mpr ⟨trivial, nofun⟩
  | some metaValue =>
    rw [found] at indexes
    have metaSafe : metaValue.Everywhere SafeNumber :=
      (everywhere_object.mp outcome).2 ("_meta", metaValue) (Assoc.mem_of_find? found)
    cases metaValue with
    | null =>
      cases indexes
      exact everywhere_object.mpr ⟨trivial, nofun⟩
    | object members =>
      cases indexes
      exact metaSafe
    | _ => cases indexes

theorem everywhere_safeNumber_insert {members : List (String × Value)} {value : Value}
    (safe : (object members).Everywhere SafeNumber) (key : String)
    (valueSafe : value.Everywhere SafeNumber) :
    (object (Assoc.insert codePointLt key value members)).Everywhere SafeNumber := by
  apply everywhere_object.mpr
  refine ⟨trivial, fun member inserted => ?_⟩
  rcases Assoc.mem_insert codePointLt inserted with rfl | held
  · exact valueSafe
  · exact (everywhere_object.mp safe).2 member held

section

variable {proxy : Proxy} {verified : VerifiedRequest} {now : Int} {id : Value} {inner : MapValue}
  {metaMembers fields : List (String × Value)}

theorem everywhere_safeNumber_emitted (described : proxy.EnvelopeFields verified now fields)
    (idSafe : id.Everywhere SafeNumber) (safe : inner.val.Everywhere SafeNumber)
    (indexes : outcomeMeta inner.val = some metaMembers) (signature : String) :
    (emitted id inner.val metaMembers fields (proxy.signedBlock signature)).Everywhere
      SafeNumber := by
  have text : ∀ text : String, (string text : Value).Everywhere SafeNumber :=
    fun _ => trivial
  have block : (proxy.signedBlock signature).Everywhere SafeNumber := by
    simp [signedBlock, SafeNumber, text]
  have fieldsSafe : (object fields).Everywhere SafeNumber := by
    apply everywhere_object.mpr
    refine ⟨trivial, fun member held => ?_⟩
    obtain ⟨value, same⟩ := described.texts member held
    rw [same]
    exact text value
  have payload := everywhere_safeNumber_scrubAt
    (everywhere_safeNumber_outcomeMembers safe) false
  have ownMeta := everywhere_safeNumber_scrubAt
    (everywhere_safeNumber_outcomeMeta safe indexes) true
  have result := everywhere_safeNumber_insert payload "_meta"
    (everywhere_safeNumber_insert ownMeta responseMetaKey
      (everywhere_safeNumber_insert fieldsSafe "signature" block))
  apply everywhere_object.mpr
  refine ⟨trivial, ?_⟩
  simp only [forall_mem_cons, not_mem_nil, false_implies, implies_true, and_true]
  exact ⟨idSafe, text "2.0", result⟩

end

/-! ## Acceptance -/

section

variable [Crates] {proxy : Proxy} {verified : VerifiedRequest} {now : Int} {id : Value}
  {inner : MapValue} {metaMembers fields : List (String × Value)} {key : VerificationKey}
  {resolver : TrustResolver}

/-- The signature steps pass on the emitted document. -/
theorem checkResponseSignature_emitted (described : proxy.EnvelopeFields verified now fields)
    (indexes : outcomeMeta inner.val = some metaMembers) {preimage : Bytes} {signature : String}
    (preimaged : responseSigningPreimage
      (emitted id inner.val metaMembers fields proxy.unsignedBlock) = .ok preimage)
    (verifies : verifyEd25519With preimage signature key .responseSigInvalid = .ok ())
    (resolves : resolver proxy.serverSigner proxy.keyId = .ok key) :
    checkResponseSignature
        (emitted id inner.val metaMembers fields (proxy.signedBlock signature))
        proxy.serverSigner ⟨sigAlgEd25519, proxy.keyId, some signature⟩ resolver = .ok () := by
  have covered : responseSigningPreimage
      (emitted id inner.val metaMembers fields (proxy.signedBlock signature)) = .ok preimage := by
    rw [← preimaged, emitted_preimage described indexes rfl rfl,
      emitted_preimage described indexes rfl rfl]
  have alg : ensureEd25519Alg sigAlgEd25519 .responseSigInvalid = .ok () :=
    ensureEd25519Alg_eq_ok.mpr rfl
  simp only [checkResponseSignature, alg, bind_ok, resolves, Except.mapError, covered,
    okOr_some, verifies]

omit [Crates] in
theorem extractResponseEnvelope_emitted (described : proxy.EnvelopeFields verified now fields)
    {authorizationHash : String} (draft01 : verified.authorization = .draft01Hash authorizationHash)
    (signature : String) :
    extractResponseEnvelope
        (emitted id inner.val metaMembers fields (proxy.signedBlock signature)) =
      .ok ⟨verified.requestHash, proxy.serverSigner, unixToRfc3339Utc now,
        ⟨sigAlgEd25519, proxy.keyId, some signature⟩⟩ := by
  have envelope := described.envelope (proxy.signedBlock signature)
  rw [responseEnvelope, draft01] at envelope
  rw [extractResponseEnvelope, locateEnvelope_emitted, ← envelope]
  rfl

omit [Crates] in
/-- The draft-02 envelope of the emitted document. -/
theorem extractDraft02ResponseEnvelope_emitted
    (described : proxy.EnvelopeFields verified now fields) {binding : AuthorizationBinding}
    (draft02 : verified.authorization = .draft02Binding binding) {scheme : String}
    (held : verified.canonicalizationId = some scheme)
    (allowed : scheme ∈ draft02CanonicalizationAllowlist) (signature : String) :
    extractDraft02ResponseEnvelope
        (emitted id inner.val metaMembers fields (proxy.signedBlock signature)) =
      .ok ⟨versionDraft02, scheme, verified.requestHash, proxy.serverSigner,
        unixToRfc3339Utc now, ⟨sigAlgEd25519, proxy.keyId, some signature⟩⟩ := by
  have envelope := described.envelope (proxy.signedBlock signature)
  rw [responseEnvelope, draft02, held] at envelope
  rw [extractDraft02ResponseEnvelope, locateEnvelope_emitted, ← envelope]
  have admitted : classifyCanonicalizationId scheme draft02CanonicalizationAllowlist
      knownCanonicalizationSchemes = .ok () := by
    rw [classifyCanonicalizationId, if_pos allowed]
  change (classifyCanonicalizationId scheme draft02CanonicalizationAllowlist
    knownCanonicalizationSchemes >>= _) = _
  rw [admitted]
  rfl

/-- Every response that the proxy emits for a verified request is accepted by the client
under the profile of that request, and carries its id. -/
theorem buildSignedResponse_accepted {spell : Number → List Char}
    {numberOf : List Char → Option Number} (writes : SerdeWrites spell numberOf)
    (reads : SerdeReads numberOf) {σ : Type} [ReplayCache σ] {requestBytes : Bytes}
    {requestResolver : TrustResolver} {replay : σ} {config : VerificationConfig}
    {requestNow : Int}
    (accepted : AcceptedRequest requestBytes requestResolver replay config requestNow verified)
    (signs : ∀ preimage signature, proxy.signer preimage = some signature →
      verifyEd25519With preimage signature key .responseSigInvalid = .ok ())
    (resolves : resolver proxy.serverSigner proxy.keyId = .ok key)
    {innerResponse : Bytes} (read : Crates.fromSlice innerResponse = some inner)
    (safe : inner.val.Everywhere SafeNumber) {bytes : Bytes}
    (built : proxy.buildSignedResponse innerResponse verified now (requestId requestBytes) =
      .ok bytes)
    {document : Document} (output : readDocument bytes = some document)
    (shallow : document.depth ≤ serdeRecursionLimit) :
    (∀ authorizationHash, verified.authorization = .draft01Hash authorizationHash →
      verifyResponse bytes resolver verified.requestHash =
        .ok ⟨proxy.serverSigner, proxy.keyId, verified.requestHash⟩) ∧
    (∀ binding, verified.authorization = .draft02Binding binding →
      ∃ scheme, verified.canonicalizationId = some scheme ∧
        ClientCore.verifySignedResponse bytes resolver
            ⟨verified.requestHash, scheme, some proxy.serverSigner⟩ =
          .ok ⟨proxy.serverSigner, proxy.keyId, verified.requestHash⟩) ∧
    ∃ response, Crates.fromSlice bytes = some response ∧
      response.val.get "id" = some (requestId requestBytes) := by
  have request := accepted.answerable
  obtain ⟨metaMembers, fields, signature, indexes, described, ⟨preimage, preimaged, signed⟩,
    written⟩ := buildSignedResponse_eq_ok read built
  have verifies := signs preimage signature signed
  have idSafe := (jcsSafe_iff.mp (jcsSafe_requestId request.known)).1
  let response : MapValue := ⟨_, sortedKeys_emitted described
    (sortedKeys_requestId requestBytes) indexes (sortedKeys_signedBlock proxy signature)⟩
  have numbers : response.val.Everywhere SafeNumber :=
    everywhere_safeNumber_emitted described idSafe safe indexes signature
  have responseWritten : Crates.toVec response.val = some bytes := written
  have low : response.val.depth ≤ serdeRecursionLimit := by
    have same := writes.writes responseWritten
    rw [output, Option.some.injEq] at same
    rwa [same, Json.depth_mapNumbers] at shallow
  have back : Crates.fromSlice bytes = some response :=
    writes.fromSlice_eq reads responseWritten numbers low
  rcases (writes.canonicalize_isOk_iff responseWritten).mpr
    ⟨numbers, low.trans (by decide)⟩ with ⟨canonical, canonicalized⟩
  have parsed : parseMessage bytes = .ok response.val :=
    parseMessage_of_id back rfl request.identified
  have signatureHolds : checkResponseSignature response.val proxy.serverSigner
      ⟨sigAlgEd25519, proxy.keyId, some signature⟩ resolver = .ok () :=
    checkResponseSignature_emitted described indexes preimaged verifies resolves
  refine ⟨?_, ?_, response, back, rfl⟩
  · intro authorizationHash draft01
    rw [verifyResponse, parsed, Except.bind_ok, canonicalized, Except.bind_ok,
      extractResponseEnvelope_emitted described draft01, Except.bind_ok]
    simp only [signatureHolds, Except.bind_ok, ne_eq, not_true_eq_false, ↓reduceIte]
    rfl
  · intro binding draft02
    rcases request.scheme binding draft02 with ⟨scheme, allowed, held⟩
    refine ⟨scheme, held, ?_⟩
    rw [ClientCore.verifySignedResponse, verifyResponseDraft02, parsed, Except.bind_ok,
      canonicalized, Except.bind_ok,
      extractDraft02ResponseEnvelope_emitted described draft02 held allowed, Except.bind_ok]
    simp only [signatureHolds, Except.bind_ok, ne_eq, not_true_eq_false, ↓reduceIte,
      Except.pure_eq_ok, Option.any_some, decide_false]
    rfl

end

/-! ## The response to the conformance vector -/

/-- The signed response to the conformance vector. -/
def signedVectorResponse : Value :=
  vectorResponse.modifyAt EnvelopeLocation.response.signaturePath
    (Json.insertMember "value" (.string
      (referenceSignature exchangeSignatures serverVerificationKey.inner
        (bytesOf vectorResponse))))

def signedVectorBytes : Bytes := bytesOf signedVectorResponse

@[reducible] def responseCrates : Crates :=
  documentReader (documentCrates exchangeCrates
    [(signedVectorBytes, ⟨signedVectorResponse, by decide +kernel⟩)])

/-- A resolver that knows the proxy. -/
def proxyResolver : TrustResolver := fun signer keyId =>
  if signer = "did:example:server-1" && keyId = "server-key-1" then .ok serverVerificationKey
  else .error .notFound

/-- The proxy's response to the conformance vector is accepted. -/
theorem buildSignedResponse_accepted_vector :
    letI := responseCrates
    AcceptedRequest vectorBytes vectorResolver (InMemoryReplayCache.new 300) vectorConfig
      1779998460 vectorVerified ∧
    (replyingProxy plainReply).buildSignedResponse plainReply vectorVerified 1779998460
      (requestId vectorBytes) = .ok signedVectorBytes ∧
    verifyResponse signedVectorBytes proxyResolver vectorVerified.requestHash =
      .ok ⟨"did:example:server-1", "server-key-1", vectorVerified.requestHash⟩ := by
  let crates := responseCrates
  have evaluated :
      (verifyRequest vectorBytes vectorResolver (InMemoryReplayCache.new 300) vectorConfig
        1779998460).1 = .ok vectorVerified ∧
      (replyingProxy plainReply).buildSignedResponse plainReply vectorVerified 1779998460
        (requestId vectorBytes) = .ok signedVectorBytes ∧
      Crates.fromSlice plainReply = some plainMessage := by
    decide +kernel
  rcases evaluated with ⟨verified, built, read⟩
  have accepted : AcceptedRequest vectorBytes vectorResolver (InMemoryReplayCache.new 300)
      vectorConfig 1779998460 vectorVerified := .inl verified
  have signs : ∀ preimage signature, (replyingProxy plainReply).signer preimage = some signature →
      verifyEd25519With preimage signature serverVerificationKey .responseSigInvalid = .ok () := by
    rintro preimage signature ⟨⟩
    exact verifyEd25519With_referenceSignature "JHosIIT-pj5x4AJwqFH82HxDaBFxJV-XzeCGioieN1A"
      exchangeSignatures [] exchangeSignatures_length _ _ _
  refine ⟨accepted, built, ?_⟩
  exact (@buildSignedResponse_accepted crates (replyingProxy plainReply) vectorVerified 1779998460
    plainMessage serverVerificationKey proxyResolver _ _
    (serdeWrites_documentReader exchangeCrates (by decide +kernel)) (serdeReads_documentReader _)
    _ _ _ _ _ _ _ accepted signs rfl _ read
    (by simp [plainMessage, SafeNumber, Json.Everywhere, Json.EverywhereMembers])
    _ built ((readDocument signedVectorBytes).getD .null) (by decide +kernel)
    (by decide +kernel)).1 _ rfl

end Mcps.Proxy
