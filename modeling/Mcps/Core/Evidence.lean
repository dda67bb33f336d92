import Mcps.Core.Pipeline

/-!
# What verification establishes

A verified request is evidence collected by the stateless steps of the pipeline and
then accepted by the replay cache.  `Established` is all that later arguments need to
know about the evidence; `verifyRequestDispatch_ok` is the one place that reads the
pipeline itself.
-/

namespace Mcps

open Except

variable [Crates]

/-- The evidence for the profile a request selects. -/
def dispatchEvidence (rawBytes : Bytes) (resolver : TrustResolver)
    (config : VerificationConfig) (now : Int) (policy : ExpectedVersionPolicy) :
    Except McpsError RequestEvidence := do
  let version ← selectVersion (← parseMessage rawBytes) policy
  if version = versionDraft01 then requestEvidence rawBytes resolver config now
  else requestEvidenceDraft02 rawBytes resolver config now

/-- What holds of the evidence for a request. -/
structure RequestEvidence.Established (rawBytes : Bytes) (config : VerificationConfig)
    (now : Int) (evidence : RequestEvidence) : Prop where
  parsed : ∃ message : MapValue,
    Crates.fromSlice rawBytes = some message ∧ message.val = evidence.value
  located : ∃ envelope, locateEnvelope evidence.value "params" requestMetaKey = .ok envelope
  signed : ∃ preimage, requestSigningPreimage evidence.value = .ok preimage
  expiry : parseRfc3339Utc evidence.claims.expiresAt = .ok evidence.expiresAtUnix
  fresh : now ≤ saturatingAdd evidence.expiresAtUnix config.maxClockSkewSecs
  identified : ∀ binding, evidence.claims.authorization = .draft02Binding binding →
    evidence.claims.canonicalizationId.isSome

section

variable {rawBytes : Bytes} {resolver : TrustResolver} {config : VerificationConfig} {now : Int}

theorem parseMessage_eq_ok {value : Value} (parsed : parseMessage rawBytes = .ok value) :
    ∃ message : MapValue, Crates.fromSlice rawBytes = some message ∧ message.val = value := by
  simp only [parseMessage, bind_eq_ok] at parsed
  obtain ⟨message, read, _, _, _, _, same⟩ := parsed
  exact ⟨message, Option.okOr_eq_ok.mp read, ok.inj same⟩

theorem parseMessage_of_id {message : MapValue} {id : Value}
    (read : Crates.fromSlice rawBytes = some message) (found : message.val.get "id" = some id)
    (identified : id ≠ .null) : parseMessage rawBytes = .ok message.val := by
  have single : rejectBatch message.val = .ok () := by
    obtain ⟨_, same, _⟩ := Json.get_eq_some found
    rw [same]
    rfl
  have request : rejectNotification message.val = .ok () := by
    rw [rejectNotification, found]
    split
    · rename_i same
      exact absurd (Option.some.inj same) identified
    · rename_i same
      cases same
    · rfl
  rw [parseMessage, read, Option.okOr_some, bind_ok, single, request]
  rfl

theorem checkClaims_eq_ok {value : Value} {claims : RequestClaims} {signature : SignatureBlock}
    {expires : Int}
    (checked : checkClaims value claims signature resolver config now = .ok expires) :
    (∃ preimage, requestSigningPreimage value = .ok preimage) ∧
      parseRfc3339Utc claims.expiresAt = .ok expires ∧
      now ≤ saturatingAdd expires config.maxClockSkewSecs := by
  simp only [checkClaims, throw_eq_error, bind_error, bind_eq_ok, guard_eq_ok] at checked
  obtain ⟨_, _, _, _, _, _, fresh, _, _, preimage, signed, _, _, _, _, parsed⟩ := checked
  obtain ⟨_, expiryParsed, inTime⟩ := checkFreshness_ok fresh
  rw [expiryParsed, ok.injEq] at parsed
  subst parsed
  exact ⟨⟨preimage, signed⟩, expiryParsed, inTime⟩

variable {evidence : RequestEvidence}

theorem requestEvidence_eq_ok
    (collected : requestEvidence rawBytes resolver config now = .ok evidence) :
    evidence.Established rawBytes config now := by
  simp only [requestEvidence, bind_eq_ok] at collected
  obtain ⟨_, parsed, _, _, _, extracted, _, _, _, checked, collected⟩ := collected
  obtain ⟨raw, located, _⟩ := bind_eq_ok.mp extracted
  obtain ⟨signed, expiry, fresh⟩ := checkClaims_eq_ok checked
  cases collected
  exact ⟨parseMessage_eq_ok parsed, ⟨raw, located⟩, signed, expiry, fresh, by rintro _ ⟨⟩⟩

theorem requestEvidenceDraft02_eq_ok
    (collected : requestEvidenceDraft02 rawBytes resolver config now = .ok evidence) :
    evidence.Established rawBytes config now := by
  simp only [requestEvidenceDraft02, bind_eq_ok] at collected
  obtain ⟨_, parsed, _, _, _, extracted, _, checked, collected⟩ := collected
  obtain ⟨raw, located, _⟩ := bind_eq_ok.mp extracted
  obtain ⟨signed, expiry, fresh⟩ := checkClaims_eq_ok checked
  cases collected
  exact ⟨parseMessage_eq_ok parsed, ⟨raw, located⟩, signed, expiry, fresh, fun _ _ => rfl⟩

theorem dispatchEvidence_eq_ok {policy : ExpectedVersionPolicy}
    (collected : dispatchEvidence rawBytes resolver config now policy = .ok evidence) :
    evidence.Established rawBytes config now := by
  simp only [dispatchEvidence, bind_eq_ok] at collected
  obtain ⟨_, _, _, _, collected⟩ := collected
  split at collected
  · exact requestEvidence_eq_ok collected
  · exact requestEvidenceDraft02_eq_ok collected

end

section

variable {σ : Type} [ReplayCache σ]

theorem verifyRequestDispatch_eq (rawBytes : Bytes) (resolver : TrustResolver) (replay : σ)
    (config : VerificationConfig) (now : Int) (policy : ExpectedVersionPolicy) :
    verifyRequestDispatch rawBytes resolver replay config now policy =
      acceptEvidence (dispatchEvidence rawBytes resolver config now policy) replay := by
  unfold verifyRequestDispatch dispatchEvidence
  cases message : parseMessage rawBytes with
  | error e => rfl
  | ok value =>
    simp only [bind_ok]
    cases selected : selectVersion value policy with
    | error e => rfl
    | ok version =>
      simp only [bind_ok]
      split <;> rfl

variable {evidence : Except McpsError RequestEvidence} {replay : σ} {verified : VerifiedRequest}

theorem acceptEvidence_ok {after : σ}
    (accepted : acceptEvidence evidence replay = (.ok verified, after)) :
    ∃ found, evidence = .ok found ∧ verified.toRequestClaims = found.claims ∧
      requestHash found.value = .ok verified.requestHash ∧
      ReplayCache.checkAndInsert found.claims.verifiedSigner found.claims.audience
        found.claims.nonce found.expiresAtUnix replay = (.ok .fresh, after) := by
  cases evidence with
  | error e => simp [acceptEvidence] at accepted
  | ok found =>
    refine ⟨found, rfl, ?_⟩
    unfold acceptEvidence acceptFresh at accepted
    dsimp only at accepted
    split at accepted
    · rename_i inserted
      simp only [Prod.mk.injEq] at accepted
      obtain ⟨_, hashed, built⟩ := bind_eq_ok.mp accepted.1
      cases built
      exact ⟨rfl, hashed, accepted.2 ▸ inserted⟩
    · simp at accepted
    · simp at accepted

theorem evidence_of_accepted (accepted : (acceptEvidence evidence replay).1 = .ok verified) :
    ∃ found, evidence = .ok found ∧ verified.toRequestClaims = found.claims := by
  have both : acceptEvidence evidence replay =
      (.ok verified, (acceptEvidence evidence replay).2) := Prod.ext accepted rfl
  obtain ⟨found, made, claims, _⟩ := acceptEvidence_ok both
  exact ⟨found, made, claims⟩

/-- A verified request: its evidence, its claims, its hash, and the fresh decision. -/
theorem verifyRequestDispatch_ok {rawBytes : Bytes} {resolver : TrustResolver} {after : σ}
    {config : VerificationConfig} {now : Int} {policy : ExpectedVersionPolicy}
    (accepted : verifyRequestDispatch rawBytes resolver replay config now policy =
      (.ok verified, after)) :
    ∃ evidence : RequestEvidence, evidence.Established rawBytes config now ∧
      verified.toRequestClaims = evidence.claims ∧
      requestHash evidence.value = .ok verified.requestHash ∧
      ReplayCache.checkAndInsert evidence.claims.verifiedSigner evidence.claims.audience
        evidence.claims.nonce evidence.expiresAtUnix replay = (.ok .fresh, after) := by
  rw [verifyRequestDispatch_eq] at accepted
  obtain ⟨evidence, collected, claims, hashed, inserted⟩ := acceptEvidence_ok accepted
  exact ⟨evidence, dispatchEvidence_eq_ok collected, claims, hashed, inserted⟩

theorem verifyRequestDispatch_state (rawBytes : Bytes) (resolver : TrustResolver) (replay : σ)
    (config : VerificationConfig) (now : Int) (policy : ExpectedVersionPolicy) :
    (verifyRequestDispatch rawBytes resolver replay config now policy).2 = replay ∨
      ∃ signer audience nonce expires,
        (verifyRequestDispatch rawBytes resolver replay config now policy).2 =
          (ReplayCache.checkAndInsert signer audience nonce expires replay).2 := by
  rw [verifyRequestDispatch_eq]
  cases dispatchEvidence rawBytes resolver config now policy with
  | error e => exact .inl rfl
  | ok found =>
    right
    refine ⟨found.claims.verifiedSigner, found.claims.audience, found.claims.nonce,
      found.expiresAtUnix, ?_⟩
    unfold acceptEvidence acceptFresh
    dsimp only
    split <;> rename_i inserted <;> rw [inserted]

end

end Mcps
