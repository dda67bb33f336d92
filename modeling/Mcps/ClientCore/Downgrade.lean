import Mcps.ClientCore.Reference
import Mcps.ClientCore.Response
import Mcps.Core.Evidence

/-!
# Bad evidence and the legacy path

A route may fall back to plain MCP when a response carries no evidence.  A response with an
envelope does carry evidence, and a failed check of it is to fail closed on every route.

The verifier reports a missing envelope from two places: where the envelope is located,
and where the signature value is cut out of it.  The second one insists on an object,
while the deserialization before it also takes the signature block as an array.
-/

namespace Mcps.ClientCore

open Option Except

section

variable [Crates] {rawBytes : Bytes} {value : MapValue} {envelope : Value}

/-- Everything the verifier looks at before the signature is in order. -/
structure PassesToSignature (rawBytes : Bytes) (value : MapValue) (resolver : TrustResolver) :
    Prop where
  framed : parseMessage rawBytes = .ok value.val
  canonical : ∃ bytes, canonicalize rawBytes = .ok bytes
  extracted : ∃ extracted, extractDraft02ResponseEnvelope value.val = .ok extracted ∧
    extracted.signature.alg = sigAlgEd25519 ∧
    ∃ key, resolver extracted.serverSigner extracted.signature.keyId = .ok key

omit [Crates] in
theorem signature_of_extracted {extracted : Draft02ResponseEnvelope}
    (located : locateEnvelope value.val "result" responseMetaKey = .ok envelope)
    (made : extractDraft02ResponseEnvelope value.val = .ok extracted) :
    (∃ members, envelope.get "signature" = some (.object members)) ∨
      ∃ items, envelope.get "signature" = some (.array items) := by
  unfold extractDraft02ResponseEnvelope at made
  rw [located, bind_ok] at made
  simp only [bind_eq_ok] at made
  obtain ⟨_, versioned, _, _, _, checked, _⟩ := made
  rcases bind_eq_some_iff.mp (requireDraft02Version_eq_ok.mp versioned) with
    ⟨_, version, _⟩
  obtain ⟨members, rfl, _⟩ := Json.get_eq_some version
  rcases @required_of_checkStruct _ _ (deserializeEnvelope_eq_ok.mp checked) signatureField rfl
    rfl with ⟨block, found, passed⟩
  cases block with
  | object members => exact .inl ⟨members, found⟩
  | array items => exact .inr ⟨items, found⟩
  | _ => cases passed

omit [Crates] in
theorem stripSignatureValue_eq_missingEnvelope
    (located : locateEnvelope value.val "result" responseMetaKey = .ok envelope)
    (noObject : ∀ members, envelope.get "signature" ≠ some (.object members)) :
    stripSignatureValue value.val .response = .error .missingEnvelope := by
  obtain ⟨_, way, held⟩ := bind_eq_some_iff.mp (okOr_eq_ok.mp located)
  obtain ⟨_, found, inside⟩ := bind_eq_some_iff.mp way
  simp only [stripSignatureValue, EnvelopeLocation.containerKey, EnvelopeLocation.metaKey, found,
    inside, held, okOr_some, bind_ok]
  cases signed : envelope.get "signature" with
  | none => rfl
  | some block =>
    cases block with
    | object members => exact absurd signed (noObject members)
    | _ => rfl

theorem checkResponseSignature_eq_missingEnvelope_iff
    (located : locateEnvelope value.val "result" responseMetaKey = .ok envelope)
    (serverSigner : String) (signature : SignatureBlock) (resolver : TrustResolver) :
    checkResponseSignature value.val serverSigner signature resolver = .error .missingEnvelope ↔
      signature.alg = sigAlgEd25519 ∧ (∃ key, resolver serverSigner signature.keyId = .ok key) ∧
        ∀ members, envelope.get "signature" ≠ some (.object members) := by
  constructor
  · intro missing
    have noObject : ∀ members, envelope.get "signature" ≠ some (.object members) := by
      intro members signed
      exact checkResponseSignature_ne_missingEnvelope located signed _ _ _ missing
    rcases bind_eq_error.mp missing with failed | ⟨_, algOk, missing⟩
    · unfold ensureEd25519Alg at failed
      split at failed <;> cases failed
    rcases bind_eq_error.mp missing with failed | ⟨key, resolved, _⟩
    · obtain ⟨failure, _, same⟩ := mapError_eq_error.mp failed
      cases failure <;> cases same
    exact ⟨ensureEd25519Alg_eq_ok.mp algOk, ⟨key, mapError_eq_ok.mp resolved⟩, noObject⟩
  · rintro ⟨alg, ⟨key, resolved⟩, noObject⟩
    simp only [checkResponseSignature, ensureEd25519Alg_eq_ok.mpr alg, bind_ok,
      mapError_eq_ok.mpr resolved, responseSigningPreimage, signingPreimage,
      stripSignatureValue_eq_missingEnvelope located noObject, bind_error]

theorem verifySignedResponse_eq_missingEnvelope_iff
    (read : Crates.fromSlice rawBytes = some value)
    (located : locateEnvelope value.val "result" responseMetaKey = .ok envelope)
    (resolver : TrustResolver) (expectation : ResponseExpectation) :
    verifySignedResponse rawBytes resolver expectation = .error .missingEnvelope ↔
      PassesToSignature rawBytes value resolver ∧
        ∃ items, envelope.get "signature" = some (.array items) := by
  constructor
  · intro missing
    rcases bind_eq_error.mp missing with missing | ⟨_, _, failed⟩
    · rcases bind_eq_error.mp missing with failed | ⟨message, framed, missing⟩
      · exact absurd failed parseMessage_ne_missingEnvelope
      have same : message = value.val := by
        obtain ⟨_, found, same⟩ := parseMessage_eq_ok framed
        cases read.symm.trans found
        exact same.symm
      subst same
      rcases bind_eq_error.mp missing with failed | ⟨bytes, canonical, missing⟩
      · exact absurd failed ((failsWith_canonicalize rawBytes).ne_error (by decide))
      rcases bind_eq_error.mp missing with failed | ⟨extracted, made, missing⟩
      · exact absurd failed (extractDraft02ResponseEnvelope_ne_missingEnvelope located)
      rcases bind_eq_error.mp missing with missing | ⟨_, _, failed⟩
      · rcases (checkResponseSignature_eq_missingEnvelope_iff located _ _ _).mp missing with
          ⟨alg, resolved, noObject⟩
        refine ⟨⟨framed, ⟨bytes, canonical⟩, extracted, made, alg, resolved⟩, ?_⟩
        rcases signature_of_extracted located made with ⟨members, signed⟩ | array
        · exact absurd signed (noObject members)
        · exact array
      · dsimp only at failed
        split at failed
        next => cases failed
        next => split at failed <;> cases failed
    · split at failed <;> cases failed
  · rintro ⟨⟨framed, ⟨bytes, canonical⟩, extracted, made, alg, resolved⟩, _, signed⟩
    have missing := (checkResponseSignature_eq_missingEnvelope_iff located extracted.serverSigner
      extracted.signature resolver).mpr ⟨alg, resolved, by simp [signed]⟩
    simp only [verifySignedResponse, verifyResponseDraft02, framed, canonical, made, missing,
      bind_ok, bind_error]

/-- A response with an envelope never falls back to the legacy path, unless the route allows
it and the envelope, in order up to its signature, has the signature block in an array. -/
theorem decide_never_fallBackToLegacy_iff
    (read : Crates.fromSlice rawBytes = some value)
    (located : locateEnvelope value.val "result" responseMetaKey = .ok envelope)
    (resolver : TrustResolver) (expectation : ResponseExpectation) (mode : EnforcementMode)
    (routeLegacyAllowed : Bool) :
    (∀ reason, decide mode routeLegacyAllowed (classifyResponseResult
        (verifySignedResponse rawBytes resolver expectation)) ≠ .fallBackToLegacy reason) ↔
      ¬ (mode = .allowLegacyExplicit ∧ routeLegacyAllowed = true ∧
        PassesToSignature rawBytes value resolver ∧
        ∃ items, envelope.get "signature" = some (.array items)) := by
  have falls := verifySignedResponse_eq_missingEnvelope_iff read located resolver expectation
  constructor
  · rintro never ⟨rfl, rfl, inArray⟩
    apply never .plainUnsigned
    rw [falls.mpr inArray]
    rfl
  · intro otherwise reason fellBack
    apply otherwise
    rcases allowed_of_fallBackToLegacy fellBack with ⟨explicit, allowed⟩
    exact ⟨explicit, allowed, falls.mp (eq_missingEnvelope_of_fallBackToLegacy fellBack)⟩

end

/-- A correctly signed response does not fall back, even on a route that allows it. -/
theorem decide_never_fallBackToLegacy_signed :
    letI := callCrates
    (Crates.fromSlice (replyWith successMember successSignature)).map Subtype.val =
        some (callResponse successMember [("value", .string successSignature)]) ∧
      ∀ reason, decide .allowLegacyExplicit true (classifyResponseResult
        (verifySignedResponse (replyWith successMember successSignature) remoteResolver
          ⟨callRequestHash, canonicalizationIdInt53V1, some "did:example:server-1"⟩)) ≠ .fallBackToLegacy reason := by
  let crates := callCrates
  have taken : (Crates.fromSlice (replyWith successMember successSignature)).map Subtype.val =
      some (callResponse successMember [("value", .string successSignature)]) := by decide +kernel
  refine ⟨taken, ?_⟩
  rcases Option.map_eq_some_iff.mp taken with ⟨⟨_, sorted⟩, read, rfl⟩
  apply (decide_never_fallBackToLegacy_iff read rfl _ _ _ _).mpr
  rintro ⟨_, _, _, items, inArray⟩
  cases inArray

/-- The response of a remote end that gives its signature block as an array. -/
def arrayResponse : Value :=
  responseWithBlock successMember
    (.array [.string sigAlgEd25519, .string "server-key-1", .string zeroSignature])

/-- It has an envelope and falls back all the same. -/
theorem decide_fallBackToLegacy_arrayResponse :
    letI := callCrates
    ((Crates.fromSlice (bytesOf arrayResponse)).bind fun value =>
        (locateEnvelope value.val "result" responseMetaKey).toOption).isSome ∧
      decide .allowLegacyExplicit true (classifyResponseResult
        (verifySignedResponse (bytesOf arrayResponse) remoteResolver
          ⟨callRequestHash, canonicalizationIdInt53V1, some "did:example:server-1"⟩)) = .fallBackToLegacy .plainUnsigned := by
  let crates := callCrates
  decide +kernel

end Mcps.ClientCore
