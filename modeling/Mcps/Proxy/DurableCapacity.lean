import Mcps.Core.Reference
import Mcps.Proxy.DurableReplay

/-!
# The capacity of the durable cache

The cache refuses new triples beyond a number of entries.  Expired entries are dropped on a
cadence of insertions and not when the cache is full, so a cache full of expired entries
refuses triples until the cadence comes round, and the refused calls are what advances it.
-/

namespace Mcps.Proxy

open FileRequest List

/-- The number of entries that are kept until a time or later. -/
def liveEntries (now : Int) (entries : ReplayEntries) : Nat :=
  entries.val.countP fun entry => now ≤ entry.2.val

theorem size_retainFrom (now : Int) (entries : ReplayEntries) :
    (retainFrom now entries).size = liveEntries now entries :=
  countP_eq_length_filter.symm

/-- The refusal of a cache that holds as many entries as it may. -/
def capacityError (limit : Nat) : ReplayCacheError :=
  .unavailable ("replay cache at capacity (" ++ toString limit ++
    " entries); refusing to admit further nonces until expired entries drain")

theorem persistFailed_ne_capacityError (text : String) (limit : Nat) :
    ReplayCacheError.unavailable ("persist failed: " ++ text) ≠ capacityError limit := by
  intro same
  have texts := congrArg String.toList (ReplayCacheError.unavailable.inj same)
  simp [String.toList_append] at texts

section

variable [Crates]

namespace DurableReplayCache

variable {cache next : DurableReplayCache} {signer audience nonce : String} {expiresAtUnix : Int}
  {exchanges : List FileExchange}

omit [Crates] in
theorem maxEntries_pruneInline (runs : cache.pruneInline.Runs exchanges next) :
    next.maxEntries = cache.maxEntries := by
  rcases runs_pruneInline.mp runs with ⟨_, _, _, rfl⟩ | ⟨_, _, rfl⟩
  · rfl
  · rfl

theorem runs_checkAndInsert_refused
    (absent : cache.entries.get? (signer, audience, nonce) = none) :
    (cache.checkAndInsert signer audience nonce expiresAtUnix).Runs exchanges
        (.error (capacityError cache.maxEntries), next) ↔
      cache.pruneInline.Runs exchanges next ∧ cache.maxEntries ≤ next.entries.size := by
  rw [checkAndInsert, if_neg (by simp [absent])]
  constructor
  · intro runs
    obtain ⟨_, _, _, rfl, pruning, runs⟩ := Program.runs_bind.mp runs
    have limit := maxEntries_pruneInline pruning
    split at runs
    next full =>
      obtain ⟨rfl, same⟩ := runs
      cases (Prod.mk.inj same).2
      rw [append_nil]
      exact ⟨pruning, limit ▸ full⟩
    next =>
      obtain ⟨result, _, _, rfl, _, runs⟩ := Program.runs_bind.mp runs
      cases result with
      | error e =>
        have same := Except.error.inj (Prod.mk.inj runs.2).1
        exact absurd same (persistFailed_ne_capacityError _ _)
      | ok done => cases runs.2
  · rintro ⟨pruning, full⟩
    have limit := maxEntries_pruneInline pruning
    refine Program.runs_bind.mpr ⟨next, exchanges, [], (append_nil _).symm, pruning, ?_⟩
    rw [if_pos (limit.symm ▸ full), limit]
    exact ⟨rfl, rfl⟩

/-! ## Refusals -/

/-- A call with a triple is refused for capacity at a time only if that many entries are kept
until then. -/
def RefusesOnlyWhenFull (cache : DurableReplayCache) (signer audience nonce : String)
    (expiresAtUnix now : Int) : Prop :=
  ∀ exchanges next,
    (cache.checkAndInsert signer audience nonce expiresAtUnix).Runs exchanges
      (.error (capacityError cache.maxEntries), next) →
    (∀ reading, ⟨clock, reading⟩ ∈ exchanges → reading = now) →
    cache.maxEntries ≤ liveEntries now cache.entries

/-- A new triple is refused only by a cache that is full of live entries exactly if the call
prunes, or the cache is not full, or it is full of live entries. -/
theorem refusesOnlyWhenFull_iff (cache : DurableReplayCache) (signer audience nonce : String)
    (expiresAtUnix now : Int) (absent : cache.entries.get? (signer, audience, nonce) = none) :
    cache.RefusesOnlyWhenFull signer audience nonce expiresAtUnix now ↔
      cache.PruneDue ∨ cache.entries.size < cache.maxEntries ∨
        cache.maxEntries ≤ liveEntries now cache.entries := by
  constructor
  · intro onlyWhenFull
    by_cases due : cache.PruneDue
    · exact .inl due
    by_cases room : cache.entries.size < cache.maxEntries
    · exact .inr (.inl room)
    have pruning := runs_pruneInline.mpr (.inr ⟨due, rfl, rfl⟩)
    have full := not_lt.mp room
    exact .inr (.inr (onlyWhenFull _ _ ((runs_checkAndInsert_refused absent).mpr ⟨pruning, full⟩)
      nofun))
  · intro condition exchanges next refused timed
    rcases (runs_checkAndInsert_refused absent).mp refused with ⟨pruning, full⟩
    rcases runs_pruneInline.mp pruning with ⟨_, reading, rfl, rfl⟩ | ⟨early, rfl, rfl⟩
    · cases timed reading (List.mem_singleton_self _)
      rw [← size_retainFrom]
      exact full
    · rcases condition with due | room | live
      · exact absurd due early
      · exact absurd full (not_le.mpr room)
      · exact live

end DurableReplayCache

end

/-! ## A file of expired entries -/

theorem compareUnits_replicate (unit : Nat) {shorter longer : Nat} (less : shorter < longer) :
    compareUnits (replicate shorter unit) (replicate longer unit) = .lt := by
  induction shorter generalizing longer with
  | zero =>
    cases longer with
    | zero => exact absurd less (lt_irrefl 0)
    | succ longer => rfl
  | succ shorter ih =>
    cases longer with
    | zero => exact absurd less (Nat.not_lt_zero _)
    | succ longer =>
      rw [replicate_succ, replicate_succ, compareUnits, if_neg (lt_irrefl unit),
        if_neg (lt_irrefl unit)]
      exact ih (Nat.lt_of_succ_lt_succ less)

/-- The key of a triple whose nonce is a number of equal letters. -/
def countedKey (count : Nat) : ReplayKey :=
  ("did:example:agent-1", "did:example:server-1", String.ofList (List.replicate count 'a'))

/-- Entries that were kept until the epoch. -/
def expiredEntries (count : Nat) : ReplayEntries :=
  ⟨(List.range count).map fun number => (countedKey number, ⟨0, by decide⟩), by
    apply List.pairwise_map.mpr
    refine List.pairwise_lt_range.imp ?_
    intro earlier later less
    refine .right _ (.right _ ?_)
    simpa [codePointLt] using compareUnits_replicate 97 less⟩

theorem get?_expiredEntries (count : Nat) :
    (expiredEntries count).get? ("did:example:agent-1", "did:example:server-1", "nonce-1") =
      none := by
  apply Assoc.find?_eq_none_iff.mpr
  intro entry held
  obtain ⟨number, _, rfl⟩ := mem_map.mp held
  intro same
  have letters : String.ofList (replicate number 'a') = "nonce-1" :=
    (Prod.mk.inj (Prod.mk.inj same).2).2
  have first : 'n' ∈ replicate number 'a' := by
    rw [← String.toList_ofList (l := replicate number 'a'), letters]
    decide
  exact absurd (eq_of_mem_replicate first) (by decide)

theorem liveEntries_expiredEntries (count : Nat) : liveEntries 1 (expiredEntries count) = 0 := by
  apply countP_eq_zero.mpr
  intro entry held
  obtain ⟨_, _, rfl⟩ := mem_map.mp held
  change ¬ decide ((1 : Int) ≤ 0) = true
  decide

theorem size_expiredEntries (count : Nat) : (expiredEntries count).size = count := by
  simp [expiredEntries, Assoc.SortedMap.size]

theorem liveEntries_zero (count : Nat) : liveEntries 0 (expiredEntries count) = count := by
  refine Eq.trans (countP_eq_length.mpr ?_) (size_expiredEntries count)
  intro entry held
  obtain ⟨_, _, rfl⟩ := mem_map.mp held
  rfl

/-- A cache with the highest number of entries refuses no triple for entries that have expired
if the call prunes; where none has expired it may refuse one. -/
theorem refusesOnlyWhenFull_full :
    letI := vectorCrates
    let cache (insertsSincePrune : Nat) : DurableReplayCache :=
      ⟨300, expiredEntries maxEntries, insertsSincePrune, maxEntries⟩
    (expiredEntries maxEntries).size = maxEntries ∧
      (cache 63).RefusesOnlyWhenFull "did:example:agent-1" "did:example:server-1" "nonce-1" 1000 1 ∧
      (cache 0).RefusesOnlyWhenFull "did:example:agent-1" "did:example:server-1" "nonce-1" 1000 0 := by
  let crates := vectorCrates
  intro cache
  have absent := get?_expiredEntries maxEntries
  have due : pruneEveryNInserts ≤ min (63 + 1) u64Max := by decide
  refine ⟨size_expiredEntries maxEntries, ?_, ?_⟩
  · exact (DurableReplayCache.refusesOnlyWhenFull_iff (cache 63) _ _ _ 1000 1 absent).mpr
      (.inl due)
  · exact (DurableReplayCache.refusesOnlyWhenFull_iff (cache 0) _ _ _ 1000 0 absent).mpr
      (.inr (.inr (liveEntries_zero maxEntries).ge))

theorem runs_checkAndInsert_expired [Crates] (count : Nat) :
    (DurableReplayCache.checkAndInsert ⟨300, expiredEntries count, 0, count⟩
        "did:example:agent-1" "did:example:server-1" "nonce-1" 1000).Runs []
      (.error (capacityError count), ⟨300, expiredEntries count, 1, count⟩) := by
  have full : count ≤ (expiredEntries count).size := (size_expiredEntries count).ge
  have early : ¬ DurableReplayCache.PruneDue ⟨300, expiredEntries count, 0, count⟩ := by
    simp [DurableReplayCache.PruneDue, pruneEveryNInserts]
  refine (DurableReplayCache.runs_checkAndInsert_refused (get?_expiredEntries count)).mpr
    ⟨?_, full⟩
  exact DurableReplayCache.runs_pruneInline.mpr (.inr ⟨early, rfl, rfl⟩)

/-- A process finds a file with the highest number of entries, all of them expired, and
refuses a new triple. -/
theorem checkAndInsert_refuses_expired :
    letI := vectorCrates
    (expiredEntries maxEntries).get? ("did:example:agent-1", "did:example:server-1", "nonce-1") =
        none ∧
      liveEntries 1 (expiredEntries maxEntries) = 0 ∧
      (DurableReplayCache.checkAndInsert ⟨300, expiredEntries maxEntries, 0, maxEntries⟩
          "did:example:agent-1" "did:example:server-1" "nonce-1" 1000).Runs []
        (.error (capacityError maxEntries), ⟨300, expiredEntries maxEntries, 1, maxEntries⟩) := by
  refine ⟨get?_expiredEntries maxEntries, liveEntries_expiredEntries maxEntries, ?_⟩
  generalize maxEntries = count
  exact @runs_checkAndInsert_expired vectorCrates count

end Mcps.Proxy
