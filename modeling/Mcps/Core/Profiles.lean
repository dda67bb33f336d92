import Mcps.Core.Evidence
import Mcps.Core.Reference

/-!
# Profile separation

A request is verified under the one profile that its envelope names, and the two profiles
accept no request in common.  The version is read three times: as a selector, by the
draft-01 deserialization and by the draft-02 one, each time from the same member, and the
signature covers that member.
-/

namespace Mcps

open Option Except Json

/-! ## The signed version -/

/-- The version member of the envelope in what the signature of a request covers. -/
def signedVersion (value : Value) : Option String :=
  (readRequestEnvelopeVersion (deletePaths (preimageExclusionPaths .request) value)).toOption

theorem locateEnvelope_deletePaths (value : Value) :
    locateEnvelope (deletePaths (preimageExclusionPaths .request) value) "params" requestMetaKey =
      (locateEnvelope value "params" requestMetaKey).map
        (updateMember "signature" (removeMember "value")) := by
  have others : ∀ key ∈ observabilityMetaKeys, requestMetaKey ≠ key := by decide
  simp only [observabilityMetaKeys, List.forall_mem_cons] at others
  obtain ⟨first, second, third, _⟩ := others
  simp only [deletePaths, preimageExclusionPaths, observabilityMetaKeys, List.map_cons,
    List.map_nil, List.foldl_cons, List.foldl_nil, erasePath, locateEnvelope,
    EnvelopeLocation.containerKey, EnvelopeLocation.metaKey, get_updateMember_self]
  cases value.get "params" with
  | none => rfl
  | some params =>
    simp only [map_some, bind_some, get_updateMember_self]
    cases params.get "_meta" with
    | none => rfl
    | some metaValue =>
      simp only [map_some, bind_some, get_removeMember_ne first,
        get_removeMember_ne second, get_removeMember_ne third,
        get_updateMember_self]
      cases metaValue.get requestMetaKey with
      | none | some _ => rfl

theorem readRequestEnvelopeVersion_deletePaths (value : Value) :
    readRequestEnvelopeVersion (deletePaths (preimageExclusionPaths .request) value) =
      readRequestEnvelopeVersion value := by
  unfold readRequestEnvelopeVersion
  rw [locateEnvelope_deletePaths]
  cases locateEnvelope value "params" requestMetaKey with
  | error e => rfl
  | ok envelope =>
    change okOr (((envelope.updateMember _ _).get "version").bind asStr) _ = _
    rw [get_updateMember_ne (by decide)]
    rfl

/-! ## Two profiles -/

theorem version_of_extractRequestEnvelope {value raw : Value} {envelope : RequestEnvelope}
    (located : locateEnvelope value "params" requestMetaKey = .ok raw)
    (extracted : extractRequestEnvelope value = .ok envelope) :
    (raw.get "version").bind asStr = some versionDraft01 ∨ ∃ items, raw = .array items := by
  unfold extractRequestEnvelope at extracted
  rw [located, bind_ok] at extracted
  obtain ⟨_, checked, extracted⟩ := bind_eq_ok.mp extracted
  obtain ⟨version, _⟩ := guard_eq_ok.mp extracted
  rw [not_not] at version
  cases raw with
  | array items => exact .inr ⟨items, rfl⟩
  | object members =>
    left
    rw [mapError_eq_ok, deserializeEnvelope_eq_ok] at checked
    rw [get_object, text_of_checkStruct checked rfl, version]
    rfl
  | _ => cases checked

theorem version_of_extractDraft02RequestEnvelope {value raw : Value}
    {envelope : Draft02RequestEnvelope}
    (located : locateEnvelope value "params" requestMetaKey = .ok raw)
    (extracted : extractDraft02RequestEnvelope value = .ok envelope) :
    (raw.get "version").bind asStr = some versionDraft02 := by
  unfold extractDraft02RequestEnvelope at extracted
  rw [located, bind_ok] at extracted
  obtain ⟨_, versioned, _⟩ := bind_eq_ok.mp extracted
  exact requireDraft02Version_eq_ok.mp versioned

theorem selectVersion_eq_ok {value : Value} {policy : ExpectedVersionPolicy} {version : String}
    (selected : selectVersion value policy = .ok version) :
    signedVersion value = some version ∧ (version = versionDraft01 ∨ version = versionDraft02) ∧
      policy.admits version = true := by
  obtain ⟨_, isRead, selected⟩ := bind_eq_ok.mp selected
  obtain ⟨_, selected⟩ := guard_eq_ok.mp selected
  obtain ⟨admitted, selected⟩ := guard_eq_ok.mp selected
  cases selected
  refine ⟨?_, ?_, by simpa using admitted⟩
  · rw [signedVersion, readRequestEnvelopeVersion_deletePaths, isRead]
    rfl
  · by_contra neither
    simp_all

section

variable [Crates] {rawBytes : Bytes} {resolver : TrustResolver} {config : VerificationConfig}
  {now : Int}

theorem not_both_evidence {draft01 draft02 : RequestEvidence}
    (first : requestEvidence rawBytes resolver config now = .ok draft01)
    (second : requestEvidenceDraft02 rawBytes resolver config now = .ok draft02) : False := by
  simp only [requestEvidence, bind_eq_ok] at first
  obtain ⟨_, parsed, _, _, _, extracted, _⟩ := first
  obtain ⟨_, parsedAgain, second⟩ := bind_eq_ok.mp second
  cases parsed.symm.trans parsedAgain
  simp only [bind_eq_ok] at second
  obtain ⟨_, _, _, extracted02, _⟩ := second
  obtain ⟨_, located, _⟩ := bind_eq_ok.mp extracted
  have version02 := version_of_extractDraft02RequestEnvelope located extracted02
  rcases version_of_extractRequestEnvelope located extracted with version01 | ⟨_, rfl⟩
  · have same := some.inj (version01.symm.trans version02)
    exact absurd same (by decide)
  · cases version02

theorem draft02_claims {evidence : RequestEvidence}
    (collected : requestEvidenceDraft02 rawBytes resolver config now = .ok evidence) :
    evidence.claims.canonicalizationId.isSome ∧
      ∃ binding, evidence.claims.authorization = .draft02Binding binding := by
  simp only [requestEvidenceDraft02, bind_eq_ok] at collected
  obtain ⟨_, _, _, _, envelope, _, _, _, collected⟩ := collected
  cases collected
  exact ⟨rfl, envelope.authorizationBinding, rfl⟩

variable {σ : Type} [ReplayCache σ]

/-- A dispatched acceptance is that of the verifier the signed version names. -/
theorem verifyRequestDispatch_eq_named {replay : σ} {policy : ExpectedVersionPolicy}
    {verified : VerifiedRequest}
    (accepted : (verifyRequestDispatch rawBytes resolver replay config now policy).1 =
      .ok verified) :
    ∃ (value : MapValue) (version : String), Crates.fromSlice rawBytes = some value ∧
      signedVersion value.val = some version ∧ policy.admits version = true ∧
      (version = versionDraft01 ∧
          verifyRequestDispatch rawBytes resolver replay config now policy =
            verifyRequest rawBytes resolver replay config now ∨
        version = versionDraft02 ∧
          verifyRequestDispatch rawBytes resolver replay config now policy =
            verifyRequestDraft02 rawBytes resolver replay config now) := by
  unfold verifyRequestDispatch at accepted ⊢
  cases parsed : parseMessage rawBytes with
  | error e =>
    rw [parsed] at accepted
    cases accepted
  | ok message =>
    obtain ⟨value, read, rfl⟩ := parseMessage_eq_ok parsed
    rw [parsed] at accepted
    simp only [bind_ok] at accepted ⊢
    cases selected : selectVersion value.val policy with
    | error e =>
      rw [selected] at accepted
      cases accepted
    | ok version =>
      obtain ⟨signed, known, admitted⟩ := selectVersion_eq_ok selected
      refine ⟨value, version, read, signed, admitted, ?_⟩
      rcases known with rfl | rfl
      · exact .inl ⟨rfl, rfl⟩
      · exact .inr ⟨rfl, rfl⟩

/-- The three sides of profile separation: no request is accepted under both profiles, a
verifier for draft-02 accepts draft-02 evidence only, and a dispatched acceptance is that
of the verifier the signed version names. -/
theorem verifyRequestDispatch_separates_profiles (rawBytes : Bytes) (resolver : TrustResolver)
    (config : VerificationConfig) (now : Int) :
    (∀ first second : σ, ∀ accepted accepted02,
      ¬ ((verifyRequest rawBytes resolver first config now).1 = .ok accepted ∧
        (verifyRequestDraft02 rawBytes resolver second config now).1 = .ok accepted02)) ∧
    (∀ replay : σ, ∀ verified,
      (verifyRequestDispatch rawBytes resolver replay config now .draft02Only).1 = .ok verified →
        verified.canonicalizationId.isSome ∧
          ∃ binding, verified.authorization = .draft02Binding binding) ∧
    ∀ replay : σ, ∀ policy verified,
      (verifyRequestDispatch rawBytes resolver replay config now policy).1 = .ok verified →
        ∃ value, Crates.fromSlice rawBytes = some value ∧
          (signedVersion value.val = some versionDraft01 ∧
              verifyRequestDispatch rawBytes resolver replay config now policy =
                verifyRequest rawBytes resolver replay config now ∨
            signedVersion value.val = some versionDraft02 ∧
              verifyRequestDispatch rawBytes resolver replay config now policy =
                verifyRequestDraft02 rawBytes resolver replay config now) := by
  refine ⟨?_, ?_, ?_⟩
  · rintro first second accepted accepted02 ⟨isAccepted, isAccepted02⟩
    rcases evidence_of_accepted isAccepted with ⟨draft01, first, _⟩
    rcases evidence_of_accepted isAccepted02 with ⟨draft02, second, _⟩
    exact not_both_evidence first second
  · intro replay verified accepted
    rcases verifyRequestDispatch_eq_named accepted with
      ⟨value, version, read, signed, admitted, ⟨rfl, same⟩ | ⟨rfl, same⟩⟩
    · exact absurd admitted (by decide)
    · rw [same] at accepted
      rcases evidence_of_accepted accepted with ⟨evidence, collected, claims⟩
      rw [claims]
      exact draft02_claims collected
  · intro replay policy verified accepted
    rcases verifyRequestDispatch_eq_named accepted with
      ⟨value, version, read, signed, _, ⟨rfl, same⟩ | ⟨rfl, same⟩⟩
    · exact ⟨value, read, .inl ⟨signed, same⟩⟩
    · exact ⟨value, read, .inr ⟨signed, same⟩⟩

end

/-- The draft-01 vector is accepted by the dispatching verifier as by the draft-01 one, and
not at all by the draft-02 one. -/
theorem verifyRequestDispatch_separates_profiles_vector :
    letI := vectorCrates
    (verifyRequestDispatch vectorBytes vectorResolver (InMemoryReplayCache.new 300) vectorConfig
      1779998400 .draft01AndDraft02).1 = .ok vectorVerified ∧
    (∃ value, Crates.fromSlice vectorBytes = some value ∧
      signedVersion value.val = some versionDraft01) ∧
    ∀ accepted02, (verifyRequestDraft02 vectorBytes vectorResolver (InMemoryReplayCache.new 300)
      vectorConfig 1779998400).1 ≠ .ok accepted02 := by
  let crates := vectorCrates
  have accepted : (verifyRequestDispatch vectorBytes vectorResolver (InMemoryReplayCache.new 300)
      vectorConfig 1779998400 .draft01AndDraft02).1 = .ok vectorVerified := by
    decide +kernel
  have draft01 : (verifyRequest vectorBytes vectorResolver (InMemoryReplayCache.new 300)
      vectorConfig 1779998400).1 = .ok vectorVerified := by
    decide +kernel
  rcases @verifyRequestDispatch_separates_profiles crates InMemoryReplayCache _ vectorBytes
    vectorResolver vectorConfig 1779998400 with ⟨apart, _, named⟩
  refine ⟨accepted, ?_, ?_⟩
  · rcases named _ _ _ accepted with ⟨value, read, ⟨signed, _⟩ | ⟨_, same⟩⟩
    · exact ⟨value, read, signed⟩
    · rw [same] at accepted
      exact absurd ⟨draft01, accepted⟩ (apart _ _ _ _)
  · intro accepted02 isAccepted
    exact apart _ _ _ _ ⟨draft01, isAccepted⟩

end Mcps
