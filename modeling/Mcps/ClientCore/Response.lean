import Mcps.Core.CanonicalDomain
import Mcps.Core.Wire

/-!
# Response verification and enforcement

A response is verified against what the client expects of the request it answers, the
result is classified as verified, absent or bad evidence, and the route's enforcement
mode decides what to do with it.  Only the absence of an envelope can fall back to
plain MCP, and only where the route allows it.
-/

namespace Mcps.ClientCore

open Option

/-- What the client expects of the response to one request. -/
structure ResponseExpectation where
  expectedRequestHash : String
  expectedCanonicalizationId : String
  expectedServerSigner : Option String
  deriving DecidableEq, Repr

/-- Verify a response, and that its signer is the expected one if there is one. -/
def verifySignedResponse [Crates] (rawBytes : Bytes) (resolver : TrustResolver)
    (expectation : ResponseExpectation) : Except McpsError VerifiedResponse := do
  let verified ← verifyResponseDraft02 rawBytes resolver expectation.expectedRequestHash
    expectation.expectedCanonicalizationId
  if expectation.expectedServerSigner.any fun expected => verified.serverSigner ≠ expected then
    throw .actorBindingFailed
  return verified

section

variable [Crates] {rawBytes : Bytes} {value : MapValue} {envelope : Value}
  {blockMembers : List (String × Value)}

theorem parseMessage_ne_missingEnvelope : parseMessage rawBytes ≠ .error .missingEnvelope := by
  unfold parseMessage rejectBatch rejectNotification
  cases Crates.fromSlice rawBytes with
  | none => nofun
  | some value =>
    rw [okOr_some, Except.bind_ok]
    apply Except.bind_ne_error
    · split <;> nofun
    · rintro - -
      apply Except.bind_ne_error
      · split <;> nofun
      · nofun

omit [Crates] in
theorem extractDraft02ResponseEnvelope_ne_missingEnvelope
    (located : locateEnvelope value.val "result" responseMetaKey = .ok envelope) :
    extractDraft02ResponseEnvelope value.val ≠ .error .missingEnvelope := by
  unfold extractDraft02ResponseEnvelope requireDraft02Version Mcps.checkCanonicalizationId
    classifyCanonicalizationId deserializeEnvelope
  rw [located, Except.bind_ok]
  apply Except.bind_ne_error
  · split <;> nofun
  rintro - -
  apply Except.bind_ne_error
  · split <;> [split <;> [nofun; split <;> nofun]; nofun]
  rintro - -
  apply Except.bind_ne_error
  · split <;> nofun
  nofun

omit [Crates] in
theorem stripSignatureValue_isOk
    (located : locateEnvelope value.val "result" responseMetaKey = .ok envelope)
    (signed : envelope.get "signature" = some (.object blockMembers)) :
    ∃ stripped, stripSignatureValue value.val .response = .ok stripped := by
  obtain ⟨_, way, held⟩ := bind_eq_some_iff.mp (okOr_eq_ok.mp located)
  obtain ⟨_, found, inside⟩ := bind_eq_some_iff.mp way
  simp [stripSignatureValue, EnvelopeLocation.containerKey, EnvelopeLocation.metaKey, found,
    inside, held, signed]

theorem checkResponseSignature_ne_missingEnvelope
    (located : locateEnvelope value.val "result" responseMetaKey = .ok envelope)
    (signed : envelope.get "signature" = some (.object blockMembers)) (serverSigner : String)
    (signature : SignatureBlock) (resolver : TrustResolver) :
    checkResponseSignature value.val serverSigner signature resolver ≠
      .error .missingEnvelope := by
  unfold checkResponseSignature ensureEd25519Alg
  apply Except.bind_ne_error
  · split <;> nofun
  rintro - -
  apply Except.bind_ne_error
  · cases resolver serverSigner signature.keyId with
    | ok key => nofun
    | error failure => cases failure <;> nofun
  rintro key -
  apply Except.bind_ne_error
  · obtain ⟨_, strip⟩ := stripSignatureValue_isOk located signed
    rw [responseSigningPreimage, signingPreimage, strip]
    exact (failsWith_canonicalizeJsonValue _).ne_error (by decide)
  rintro preimage -
  apply Except.bind_ne_error
  · cases signature.value <;> nofun
  rintro text -
  unfold verifyEd25519With
  split
  next => split <;> [nofun; split <;> nofun]
  next => nofun

theorem verifySignedResponse_parses {resolver : TrustResolver} {expectation : ResponseExpectation}
    {result : Except McpsError VerifiedResponse}
    (verdict : verifySignedResponse rawBytes resolver expectation = result)
    (present : (∃ verified, result = .ok verified) ∨ result = .error .missingEnvelope) :
    ∃ value jcs, Crates.fromSlice rawBytes = some value ∧ parse rawBytes = .ok jcs := by
  cases read : Crates.fromSlice rawBytes with
  | none =>
    have failed : result = .error .canonicalizationFailed := by
      rw [← verdict, verifySignedResponse, verifyResponseDraft02, parseMessage, read]
      rfl
    rw [failed] at present
    rcases present with ⟨_, impossible⟩ | impossible
    · cases impossible
    · cases impossible
  | some value =>
    cases parsed : parse rawBytes with
    | ok jcs => exact ⟨value, jcs, rfl, rfl⟩
    | error error =>
      have failed : ∃ e, result = .error e ∧ e ≠ .missingEnvelope := by
        rw [← verdict, verifySignedResponse, verifyResponseDraft02, canonicalize, parsed]
        cases message : parseMessage rawBytes with
        | error e => exact ⟨e, rfl, fun same => parseMessage_ne_missingEnvelope (same ▸ message)⟩
        | ok _ =>
          refine ⟨error, rfl, ?_⟩
          rintro rfl
          exact (failsWith_parse rawBytes).ne_error (by decide) parsed
      obtain ⟨e, same, other⟩ := failed
      rw [same] at present
      rcases present with ⟨_, impossible⟩ | impossible
      · cases impossible
      · exact absurd (Except.error.inj impossible) other

theorem verifySignedResponse_ne_missingEnvelope
    (read : Crates.fromSlice rawBytes = some value)
    (located : locateEnvelope value.val "result" responseMetaKey = .ok envelope)
    (signed : envelope.get "signature" = some (.object blockMembers)) (resolver : TrustResolver)
    (expectation : ResponseExpectation) :
    verifySignedResponse rawBytes resolver expectation ≠ .error .missingEnvelope := by
  apply Except.bind_ne_error
  · apply Except.bind_ne_error parseMessage_ne_missingEnvelope
    intro message parsed
    have same : message = value.val := by
      unfold parseMessage at parsed
      rw [read, okOr_some, Except.bind_ok] at parsed
      simp only [Except.bind_eq_ok] at parsed
      obtain ⟨_, _, _, _, parsed⟩ := parsed
      exact (Except.ok.inj parsed).symm
    subst same
    apply Except.bind_ne_error ((failsWith_canonicalize rawBytes).ne_error (by decide))
    rintro - -
    apply Except.bind_ne_error
    · exact extractDraft02ResponseEnvelope_ne_missingEnvelope located
    · rintro extracted -
      apply Except.bind_ne_error
      · exact checkResponseSignature_ne_missingEnvelope located signed _ _ _
      · intro _ _
        dsimp only
        split
        next => rintro ⟨⟩
        next => split <;> rintro ⟨⟩
  · rintro verified -
    split <;> rintro ⟨⟩

end

/-! ## Enforcement -/

inductive EnforcementMode where
  | requireMcps
  | allowLegacyExplicit
  deriving DecidableEq, Repr

inductive AbsenceReason where
  | transportFailurePreEvidence
  | plainUnsigned
  | explicitUnsupportedHint
  deriving DecidableEq, Repr

inductive EvidenceOutcome where
  | verified (response : VerifiedResponse)
  | absent (reason : AbsenceReason)
  | invalid (error : McpsError)
  deriving DecidableEq, Repr

inductive EnforcementDecision where
  | acceptMcps
  | fallBackToLegacy (reason : AbsenceReason)
  | failClosed (error : McpsError)
  deriving DecidableEq, Repr

def absenceFailClosedCode : AbsenceReason → McpsError
  | .plainUnsigned => .missingEnvelope
  | .transportFailurePreEvidence | .explicitUnsupportedHint => .downgradeForbidden

/-- Only a missing envelope is absence; every other failure is bad evidence. -/
def classifyResponseResult : Except McpsError VerifiedResponse → EvidenceOutcome
  | .ok verified => .verified verified
  | .error .missingEnvelope => .absent .plainUnsigned
  | .error other => .invalid other

def decide (mode : EnforcementMode) (routeLegacyAllowed : Bool) :
    EvidenceOutcome → EnforcementDecision
  | .verified _ => .acceptMcps
  | .invalid error => .failClosed error
  | .absent reason =>
    match mode with
    | .requireMcps => .failClosed (absenceFailClosedCode reason)
    | .allowLegacyExplicit =>
      if routeLegacyAllowed then .fallBackToLegacy reason
      else .failClosed (absenceFailClosedCode reason)

variable {mode : EnforcementMode} {routeLegacyAllowed : Bool}
  {result : Except McpsError VerifiedResponse}

theorem decide_classifyResponseResult_eq_acceptMcps :
    decide mode routeLegacyAllowed (classifyResponseResult result) = .acceptMcps ↔
      ∃ verified, result = .ok verified := by
  cases result with
  | ok verified => simp [classifyResponseResult, decide]
  | error error =>
    cases error <;> cases mode <;> cases routeLegacyAllowed <;>
      simp [classifyResponseResult, decide]

variable {reason : AbsenceReason}

theorem eq_missingEnvelope_of_fallBackToLegacy
    (falls : decide mode routeLegacyAllowed
      (classifyResponseResult result) = .fallBackToLegacy reason) :
    result = .error .missingEnvelope := by
  cases result with
  | ok verified => simp [classifyResponseResult, decide] at falls
  | error error =>
    cases error <;> first | rfl | simp [classifyResponseResult, decide] at falls

theorem allowed_of_fallBackToLegacy {outcome : EvidenceOutcome}
    (falls : decide mode routeLegacyAllowed outcome = .fallBackToLegacy reason) :
    mode = .allowLegacyExplicit ∧ routeLegacyAllowed = true := by
  cases outcome with
  | verified | invalid => cases falls
  | absent =>
    cases mode with
    | requireMcps => cases falls
    | allowLegacyExplicit =>
      cases routeLegacyAllowed with
      | false => cases falls
      | true => exact ⟨rfl, rfl⟩

/-! ## Audit events -/

inductive ClientPath where
  | mcpsVerified
  | legacyExplicit
  deriving DecidableEq, Repr

inductive ClientOutcome where
  | accepted
  | fellBackToLegacy
  | rejected
  deriving DecidableEq, Repr

structure ClientAuditEvent where
  path : ClientPath
  outcome : ClientOutcome
  reason : Option String
  legacyReason : Option AbsenceReason
  deriving DecidableEq, Repr

/-- The audit event of a decision. -/
def auditForDecision : EnforcementDecision → ClientAuditEvent
  | .acceptMcps => ⟨.mcpsVerified, .accepted, none, none⟩
  | .fallBackToLegacy reason => ⟨.legacyExplicit, .fellBackToLegacy, none, some reason⟩
  | .failClosed error => ⟨.mcpsVerified, .rejected, some error.wireCode, none⟩

end Mcps.ClientCore
