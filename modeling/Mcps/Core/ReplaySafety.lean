import Mcps.Core.Evidence
import Mcps.Core.Reference
import Mcps.Lib.Transition

/-!
# At-most-once acceptance

A signed request is accepted at most once by a verifier with the in-memory replay
cache, whatever calls and prunings come in between.  An accepted request's triple is
held until its expiry plus the cache's skew, and a later verification of the same
request is fresh only up to its expiry plus a skew that is not larger; pruning drops
an entry only once the clock is past that point, and by then the request is stale.

One call leaves a trace in the cache exactly if it accepts: what comes after the insertion
cannot fail, because the preimage it hashes was already built to check the signature.
-/

namespace Mcps

open Assoc

/-! ## The cache -/

variable (cache : InMemoryReplayCache)

theorem checkAndInsert_cases (signer audience nonce : String) (expires : Int) :
    ((find? (signer, audience, nonce) cache.seen).isSome ∧
      cache.checkAndInsert signer audience nonce expires = (.ok .replay, cache)) ∨
    (find? (signer, audience, nonce) cache.seen = none ∧
      cache.checkAndInsert signer audience nonce expires =
        (.ok .fresh, { cache with seen := ((signer, audience, nonce),
          saturatingAdd expires cache.maxClockSkewSecs) :: cache.seen })) := by
  rw [InMemoryReplayCache.checkAndInsert]
  split
  · rename_i held
    exact .inl ⟨held, rfl⟩
  · rename_i absent
    exact .inr ⟨Option.not_isSome_iff_eq_none.mp absent, rfl⟩

theorem find?_checkAndInsert {cache : InMemoryReplayCache} {key : String × String × String}
    {retainUntil : Int} (held : find? key cache.seen = some retainUntil)
    (signer audience nonce : String) (expires : Int) :
    find? key (cache.checkAndInsert signer audience nonce expires).2.seen =
      some retainUntil := by
  rcases checkAndInsert_cases cache signer audience nonce expires with
    ⟨_, replay⟩ | ⟨absent, fresh⟩
  · rw [replay]
    exact held
  · have different : (signer, audience, nonce) ≠ key := by
      intro same
      rw [same, held] at absent
      cases absent
    rw [fresh, find?_cons_ne different, held]

theorem checkAndInsert_skew (signer audience nonce : String) (expires : Int) :
    (cache.checkAndInsert signer audience nonce expires).2.maxClockSkewSecs =
      cache.maxClockSkewSecs := by
  rcases checkAndInsert_cases cache signer audience nonce expires with ⟨_, replay⟩ | ⟨_, fresh⟩
  · rw [replay]
  · rw [fresh]

theorem checkAndInsert_fresh {cache after : InMemoryReplayCache} {signer audience nonce : String}
    {expires : Int}
    (fresh : cache.checkAndInsert signer audience nonce expires = (.ok .fresh, after)) :
    find? (signer, audience, nonce) cache.seen = none ∧
      after = { cache with seen := ((signer, audience, nonce),
        saturatingAdd expires cache.maxClockSkewSecs) :: cache.seen } := by
  rcases checkAndInsert_cases cache signer audience nonce expires with
    ⟨_, replay⟩ | ⟨absent, inserted⟩
  · rw [fresh] at replay
    cases replay
  · rw [fresh] at inserted
    cases inserted
    exact ⟨absent, rfl⟩

/-! ## The trace of one call -/

section

variable [Crates]

theorem acceptFresh_rejected {evidence : RequestEvidence} {cache : InMemoryReplayCache}
    {failure : McpsError} (signed : ∃ preimage, requestSigningPreimage evidence.value = .ok preimage)
    (rejected : (acceptFresh evidence cache).1 = .error failure) :
    (acceptFresh evidence cache).2 = cache := by
  have decided := checkAndInsert_cases cache evidence.claims.verifiedSigner
    evidence.claims.audience evidence.claims.nonce evidence.expiresAtUnix
  unfold acceptFresh at rejected ⊢
  dsimp only [ReplayCache.checkAndInsert] at rejected ⊢
  rcases decided with ⟨_, replay⟩ | ⟨_, fresh⟩
  · rw [replay]
  · obtain ⟨_, signed⟩ := signed
    rw [fresh] at rejected
    simp [requestHash, signed] at rejected

/-- A rejected request leaves the cache as it was, and an accepted one adds its own triple,
which was absent, until its expiry plus the cache's skew within the `i64` range. -/
theorem verifyRequestDispatch_trace (rawBytes : Bytes) (resolver : TrustResolver)
    (cache : InMemoryReplayCache) (config : VerificationConfig) (now : Int)
    (policy : ExpectedVersionPolicy) :
    (∀ failure, (verifyRequestDispatch rawBytes resolver cache config now policy).1 =
        .error failure →
      (verifyRequestDispatch rawBytes resolver cache config now policy).2 = cache) ∧
    ∀ verified, (verifyRequestDispatch rawBytes resolver cache config now policy).1 =
        .ok verified →
      ∃ expires, parseRfc3339Utc verified.expiresAt = .ok expires ∧
        Assoc.find? (verified.verifiedSigner, verified.audience, verified.nonce) cache.seen =
          none ∧
        (verifyRequestDispatch rawBytes resolver cache config now policy).2 =
          { cache with seen := ((verified.verifiedSigner, verified.audience, verified.nonce),
            saturatingAdd expires cache.maxClockSkewSecs) :: cache.seen } := by
  constructor
  · intro failure rejected
    rw [verifyRequestDispatch_eq] at rejected ⊢
    cases collected : dispatchEvidence rawBytes resolver config now policy with
    | error e => rfl
    | ok evidence =>
      rw [collected] at rejected
      exact acceptFresh_rejected (dispatchEvidence_eq_ok collected).signed rejected
  · intro verified accepted
    have outcome : verifyRequestDispatch rawBytes resolver cache config now policy =
        (.ok verified, (verifyRequestDispatch rawBytes resolver cache config now policy).2) :=
      Prod.ext accepted rfl
    rcases verifyRequestDispatch_ok outcome with ⟨evidence, established, same, _, inserted⟩
    rcases checkAndInsert_fresh inserted with ⟨absent, after⟩
    have parsed := established.expiry
    rw [← same] at parsed absent after
    exact ⟨evidence.expiresAtUnix, parsed, absent, after⟩

end

/-- Under an extreme skew the retention ends with the `i64` range and not at the expiry plus
the skew. -/
theorem retention_saturates :
    letI := vectorCrates
    let cache := InMemoryReplayCache.new 9223372036854775807
    let outcome := verifyRequestDispatch vectorBytes vectorResolver cache vectorConfig 1779998460
      .draft01AndDraft02
    outcome.1.toOption.map (·.expiresAt) = some "2026-05-28T20:05:00Z" ∧
      parseRfc3339Utc "2026-05-28T20:05:00Z" = .ok 1779998700 ∧
      outcome.2.seen.map Prod.snd = [9223372036854775807] ∧
      (9223372036854775807 : Int) ≠ 1779998700 + cache.maxClockSkewSecs := by
  decide +kernel

/-! ## Runs of one verifier -/

/-- A call on a verifier that owns an in-memory replay cache. -/
inductive CacheCall where
  | verify (rawBytes : Bytes) (resolver : TrustResolver) (config : VerificationConfig)
      (now : Int) (policy : ExpectedVersionPolicy)
  | prune (now : Int)

/-- A verifier's cache, and the clock of the latest verification, which the code does not
keep but the caller of `prune` answers to. -/
structure VerifierState where
  cache : InMemoryReplayCache
  latest : Option Int

def VerifierState.start (skew : Int) : VerifierState := ⟨.new skew, none⟩

/-- What a run of calls must respect: the clock never goes back, no configuration
tolerates more skew than the cache retains for, and pruning stays at or before the
latest clock. -/
def CacheCall.Respects (skew : Int) (state : VerifierState) : CacheCall → Prop
  | .verify _ _ config now _ =>
    config.maxClockSkewSecs ≤ skew ∧ ∀ earlier ∈ state.latest, earlier ≤ now
  | .prune now => ∀ latest ∈ state.latest, now ≤ latest

instance (skew : Int) (state : VerifierState) :
    (call : CacheCall) → Decidable (call.Respects skew state)
  | .verify _ _ config now _ => inferInstanceAs
      (Decidable (config.maxClockSkewSecs ≤ skew ∧ ∀ earlier ∈ state.latest, earlier ≤ now))
  | .prune now => inferInstanceAs (Decidable (∀ latest ∈ state.latest, now ≤ latest))

/-- The signed fields that tell requests apart for replay. -/
def RequestClaims.ticket (claims : RequestClaims) : String × String × String × String :=
  (claims.verifiedSigner, claims.audience, claims.nonce, claims.expiresAt)

section

variable [Crates]

/-- A verifier answering calls; a pruning call has no answer. -/
def verifierMachine : Machine VerifierState CacheCall (Option (Except McpsError VerifiedRequest)) where
  step state call :=
    match call with
    | .verify rawBytes resolver config now policy =>
      let (answer, cache) := verifyRequestDispatch rawBytes resolver state.cache config now policy
      (some answer, ⟨cache, some now⟩)
    | .prune now => (none, { state with cache := state.cache.prune now })

/-- Two acceptances of one ticket. -/
def SameTicketAccepted (earlier later : Option (Except McpsError VerifiedRequest)) : Prop :=
  ∃ first second, earlier = some (.ok first) ∧ later = some (.ok second) ∧
    first.ticket = second.ticket

/-- A triple is held until the retention end, or that end has passed. -/
def Retained (state : VerifierState) (key : String × String × String) (retainUntil : Int) : Prop :=
  ∃ latest, state.latest = some latest ∧
    (Assoc.find? key state.cache.seen = some retainUntil ∨ retainUntil < latest)

variable {state : VerifierState}

theorem Retained.step {skew : Int} {key : String × String × String} {retainUntil : Int}
    (retained : Retained state key retainUntil) {call : CacheCall}
    (respects : call.Respects skew state) :
    Retained (verifierMachine.step state call).2 key retainUntil := by
  obtain ⟨latest, known, status⟩ := retained
  cases call with
  | verify rawBytes resolver config now policy =>
    have forward : latest ≤ now := respects.2 latest known
    refine ⟨now, rfl, ?_⟩
    rcases status with held | passed
    · left
      simp only [verifierMachine]
      rcases verifyRequestDispatch_state rawBytes resolver state.cache config now policy with
        unchanged | ⟨signer, audience, nonce, expires, inserted⟩
      · rw [unchanged]
        exact held
      · rw [inserted]
        exact find?_checkAndInsert held signer audience nonce expires
    · right
      omega
  | prune now =>
    have bounded : now ≤ latest := respects latest known
    refine ⟨latest, known, ?_⟩
    rcases status with held | passed
    · by_cases inTime : now ≤ retainUntil
      · left
        exact find?_filter held (by simpa using inTime)
      · right
        omega
    · exact .inr passed

theorem verifierMachine_skew (call : CacheCall) :
    (verifierMachine.step state call).2.cache.maxClockSkewSecs =
      state.cache.maxClockSkewSecs := by
  cases call with
  | verify rawBytes resolver config now policy =>
    simp only [verifierMachine]
    rcases verifyRequestDispatch_state rawBytes resolver state.cache config now policy with
      unchanged | ⟨signer, audience, nonce, expires, inserted⟩
    · rw [unchanged]
    · rw [inserted]
      exact checkAndInsert_skew state.cache signer audience nonce expires
  | prune now => rfl

/-- What an accepting step did: the ticket's expiry parses, the clock was within it and
the tolerated skew, and its triple was absent before and is held after. -/
theorem verifierMachine_accepts {call : CacheCall} {verified : VerifiedRequest}
    (accepted : (verifierMachine.step state call).1 = some (.ok verified)) :
    ∃ rawBytes resolver config now policy expires,
      call = .verify rawBytes resolver config now policy ∧
      parseRfc3339Utc verified.expiresAt = .ok expires ∧
      now ≤ saturatingAdd expires config.maxClockSkewSecs ∧
      find? (verified.verifiedSigner, verified.audience, verified.nonce)
        state.cache.seen = none ∧
      find? (verified.verifiedSigner, verified.audience, verified.nonce)
        (verifierMachine.step state call).2.cache.seen =
          some (saturatingAdd expires state.cache.maxClockSkewSecs) := by
  cases call with
  | prune now => simp [verifierMachine] at accepted
  | verify rawBytes resolver config now policy =>
    refine ⟨rawBytes, resolver, config, now, policy, ?_⟩
    simp only [verifierMachine, Option.some.injEq] at accepted ⊢
    generalize outcome : verifyRequestDispatch rawBytes resolver state.cache config now policy =
      result at accepted ⊢
    obtain ⟨_, _⟩ := result
    subst accepted
    obtain ⟨evidence, established, same, _, inserted⟩ := verifyRequestDispatch_ok outcome
    obtain ⟨absent, rfl⟩ := checkAndInsert_fresh inserted
    have parsed := established.expiry
    rw [← same] at parsed absent ⊢
    exact ⟨evidence.expiresAtUnix, trivial, parsed, established.fresh, absent,
      find?_cons_self _ _ _⟩

/-- Barred: if the answer accepted a request, its triple is retained. -/
def Barred (skew : Int) (answer : Option (Except McpsError VerifiedRequest))
    (state : VerifierState) : Prop :=
  ∀ verified, answer = some (.ok verified) → ∃ expires,
    parseRfc3339Utc verified.expiresAt = .ok expires ∧
      Retained state (verified.verifiedSigner, verified.audience, verified.nonce)
        (saturatingAdd expires skew)

/-- At-most-once acceptance: in every run of verifications and prunings on one cache that
starts empty, no two accepted calls carry the same signer, audience, nonce and expiry. -/
theorem verifyRequestDispatch_at_most_once (skew : Int) (calls : List CacheCall)
    (respects : verifierMachine.Allowed (fun state call => call.Respects skew state)
      (.start skew) calls) :
    (verifierMachine.answers (.start skew) calls).Pairwise
      fun earlier later => ¬ SameTicketAccepted earlier later := by
  apply Machine.pairwise_answers (fun state => state.cache.maxClockSkewSecs = skew) (Barred skew)
    ?_ ?_ ?_ ?_ rfl respects
  · intro state call same _
    rw [verifierMachine_skew, same]
  · intro state call same _ verified accepted
    rcases verifierMachine_accepts accepted with
      ⟨rawBytes, resolver, config, now, policy, expires, rfl, parsed, _, _, held⟩
    exact ⟨expires, parsed, now, rfl, .inl (same ▸ held)⟩
  · intro answer state call barred callRespects verified accepted
    rcases barred verified accepted with ⟨expires, parsed, retained⟩
    exact ⟨expires, parsed, retained.step callRespects⟩
  · rintro answer state call barred callRespects ⟨first, second, firstAccepted, secondAccepted, same⟩
    rcases barred first firstAccepted with ⟨expires, parsed, latest, known, status⟩
    rcases verifierMachine_accepts secondAccepted with
      ⟨rawBytes, resolver, config, now, policy, expiresAgain, rfl, parsedAgain, inTime, absent, _⟩
    simp only [RequestClaims.ticket, Prod.mk.injEq] at same
    rcases same with ⟨signers, audiences, nonces, expiries⟩
    rw [← expiries, parsed, Except.ok.injEq] at parsedAgain
    subst parsedAgain
    rcases status with held | passed
    · rw [signers, audiences, nonces, absent] at held
      exact absurd held (by simp)
    · have skews : config.maxClockSkewSecs ≤ skew := callRespects.1
      have forward : latest ≤ now := callRespects.2 latest known
      have window : saturatingAdd expires config.maxClockSkewSecs ≤ saturatingAdd expires skew :=
        saturatingAdd_le_saturatingAdd skews
      omega

end

/-- A signed request delivered twice, with a pruning in between. -/
def redeliveredVector : List CacheCall :=
  [.verify vectorBytes vectorResolver vectorConfig 1779998460 .draft01AndDraft02,
    .prune 1779998460,
    .verify vectorBytes vectorResolver vectorConfig 1779998461 .draft01AndDraft02]

/-- The first delivery of a signed request is accepted, the second is not. -/
theorem redeliveredVector_at_most_once :
    letI := vectorCrates
    (verifierMachine.answers (.start 300) redeliveredVector).map
        (fun answer => answer.map fun outcome => (outcome.toOption.map (·.nonce))) =
      [some (some "Zm9vYmFyYmF6cXV4MTIzNDU2Nzg5MA"), none, some none] ∧
    (verifierMachine.answers (.start 300) redeliveredVector).Pairwise
      fun earlier later => ¬ SameTicketAccepted earlier later := by
  let crates := vectorCrates
  have facts : (verifierMachine.answers (.start 300) redeliveredVector).map
        (fun answer => answer.map fun outcome => (outcome.toOption.map (·.nonce))) =
      [some (some "Zm9vYmFyYmF6cXV4MTIzNDU2Nzg5MA"), none, some none] ∧
      verifierMachine.Allowed (fun state call => call.Respects 300 state) (.start 300)
        redeliveredVector := by
    decide +kernel
  exact ⟨facts.1, verifyRequestDispatch_at_most_once 300 redeliveredVector facts.2⟩

end Mcps
