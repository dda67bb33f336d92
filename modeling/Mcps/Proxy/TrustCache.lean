import Mcps.Core.Pipeline
import Mcps.Lib.Framing
import Mcps.Lib.History

/-!
# The bounded trust cache

A trust resolver in front of another one that keeps its answers for a while: keys and
revocations for the propagation window, other negatives for a shorter one, and an
unavailable source never.  A call reads the clock once; the inner resolver is given by what
it answers at the time of the call.

Entries are ignored once their window is closed, but only `prune` takes them out.
-/

namespace Mcps.Proxy

open List Assoc

def defaultTSecs : Int := 60

def defaultNegativeTtlSecs : Int := 5

/-- What a trust resolver answers. -/
abbrev TrustAnswer := Except TrustResolverError VerificationKey

/-- An answer that can be kept. -/
inductive CachedOutcome where
  | active (key : VerificationKey)
  | revoked
  | notFound
  | malformed
  deriving DecidableEq

/-- The answer an outcome stands for. -/
def CachedOutcome.toResult : CachedOutcome → TrustAnswer
  | .active key => .ok key
  | .revoked => .error .revoked
  | .notFound => .error .notFound
  | .malformed => .error .malformedKey

theorem CachedOutcome.toResult_ne_unavailable (outcome : CachedOutcome) (details : String) :
    outcome.toResult ≠ .error (.unavailable details) := by
  cases outcome <;> simp [CachedOutcome.toResult]

structure CacheEntry where
  outcome : CachedOutcome
  expiresAt : Int
  deriving DecidableEq

/-- The two lifetimes of the cache, and its entries by composed key. -/
structure BoundedTrustCache where
  tSecs : Int
  negativeTtlSecs : Int
  entries : Assoc.SortedMap codePointLt CacheEntry

namespace BoundedTrustCache

def new (tSecs negativeTtlSecs : Int) : BoundedTrustCache :=
  ⟨max tSecs 0, max negativeTtlSecs 0, .empty⟩

/-- The key of a pair: both fields, each after its length in bytes. -/
def composeKey (signer keyId : String) : String :=
  toString (textBytes signer).length ++ ":" ++ signer ++ "|" ++
    toString (textBytes keyId).length ++ ":" ++ keyId

/-- The answer of an entry whose window is still open. -/
def cached (cache : BoundedTrustCache) (key : String) (now : Int) : Option TrustAnswer :=
  (cache.entries.get? key).bind fun entry =>
    if now < entry.expiresAt then some entry.outcome.toResult else none

def store (cache : BoundedTrustCache) (key : String) (outcome : CachedOutcome) (now ttl : Int) :
    BoundedTrustCache :=
  { cache with entries := cache.entries.insert key ⟨outcome, saturatingAdd now ttl⟩ }

/-- Take out every entry whose window is closed. -/
def prune (cache : BoundedTrustCache) (now : Int) : BoundedTrustCache :=
  { cache with entries := cache.entries.retain fun entry => entry.2.expiresAt > now }

/-- Take out the entry of a pair, and whether there was one. -/
def evict (cache : BoundedTrustCache) (signer keyId : String) : Bool × BoundedTrustCache :=
  let key := composeKey signer keyId
  ((cache.entries.get? key).isSome, { cache with entries := cache.entries.remove key })

/-- Keep an answer for as long as its kind is kept. -/
def remember (cache : BoundedTrustCache) (key : String) (result : TrustAnswer) (now : Int) :
    BoundedTrustCache :=
  match result with
  | .ok verificationKey => cache.store key (.active verificationKey) now cache.tSecs
  | .error .revoked => cache.store key .revoked now cache.tSecs
  | .error .notFound => cache.store key .notFound now cache.negativeTtlSecs
  | .error .malformedKey => cache.store key .malformed now cache.negativeTtlSecs
  | .error (.unavailable _) => cache

/-- Answer from the cache, or ask the inner resolver and keep what it says. -/
def resolve (cache : BoundedTrustCache) (inner : TrustResolver) (now : Int)
    (signer keyId : String) : TrustAnswer × BoundedTrustCache :=
  let key := composeKey signer keyId
  match cache.cached key now with
  | some hit => (hit, cache)
  | none =>
    let result := inner signer keyId
    (result, cache.remember key result now)

theorem composeKey_injective {signer keyId signer' keyId' : String}
    (same : composeKey signer keyId = composeKey signer' keyId') :
    signer = signer' ∧ keyId = keyId' := by
  have framed : ∀ signer keyId : String, composeKey signer keyId =
      Framing.frameText signer ++ ("|" ++ (Framing.frameText keyId ++ "")) := by
    intro signer keyId
    simp [composeKey, Framing.frameText, String.append_assoc]
  rw [framed, framed] at same
  obtain ⟨signers, same⟩ := Framing.frameText_append_inj same
  obtain ⟨keyIds, _⟩ := Framing.frameText_append_inj (String.append_right_inj _ |>.mp same)
  exact ⟨signers, keyIds⟩

/-- How long an answer is kept. -/
def lifetime (tSecs negativeTtlSecs : Int) : TrustAnswer → Int
  | .ok _ | .error .revoked => tSecs
  | .error .notFound | .error .malformedKey => negativeTtlSecs
  | .error (.unavailable _) => 0

variable (cache : BoundedTrustCache)

/-- An answer is kept under its key for its lifetime, unless the source was unavailable. -/
theorem remember_cases (key : String) (result : TrustAnswer) (now : Int) :
    (∃ details, result = .error (.unavailable details)) ∧ cache.remember key result now = cache ∨
      ∃ outcome : CachedOutcome, outcome.toResult = result ∧
        cache.remember key result now = cache.store key outcome now
          (lifetime cache.tSecs cache.negativeTtlSecs result) := by
  cases result with
  | ok verificationKey => exact .inr ⟨.active verificationKey, rfl, rfl⟩
  | error failure =>
    cases failure with
    | notFound => exact .inr ⟨.notFound, rfl, rfl⟩
    | revoked => exact .inr ⟨.revoked, rfl, rfl⟩
    | malformedKey => exact .inr ⟨.malformed, rfl, rfl⟩
    | unavailable details => exact .inl ⟨⟨details, rfl⟩, rfl⟩

/-- What the inner resolver returns in a call, if it is asked. -/
def asked (cache : BoundedTrustCache) (inner : TrustResolver) (now : Int)
    (signer keyId : String) : Option TrustAnswer :=
  match cache.cached (composeKey signer keyId) now with
  | some _ => none
  | none => some (inner signer keyId)

/-- A call is answered by an entry that is still open, or by the inner resolver. -/
theorem resolve_cases (inner : TrustResolver) (now : Int) (signer keyId : String) :
    (∃ entry, cache.entries.get? (composeKey signer keyId) = some entry ∧ now < entry.expiresAt ∧
        cache.asked inner now signer keyId = none ∧
        cache.resolve inner now signer keyId = (entry.outcome.toResult, cache)) ∨
      cache.cached (composeKey signer keyId) now = none ∧
        cache.asked inner now signer keyId = some (inner signer keyId) ∧
        cache.resolve inner now signer keyId = (inner signer keyId,
          cache.remember (composeKey signer keyId) (inner signer keyId) now) := by
  cases hit : cache.cached (composeKey signer keyId) now with
  | none =>
    right
    simp only [asked, resolve, hit, and_self]
  | some answer =>
    obtain ⟨entry, found, isOpen⟩ := Option.bind_eq_some_iff.mp hit
    by_cases inTime : now < entry.expiresAt
    · rw [if_pos inTime] at isOpen
      cases isOpen
      exact .inl ⟨entry, found, inTime, by simp only [asked, hit], by simp only [resolve, hit]⟩
    · rw [if_neg inTime] at isOpen
      cases isOpen

variable {cache} {inner : TrustResolver} {now : Int} {signer keyId : String}

/-- An entry after a call was there before, or holds what the inner resolver said in it. -/
theorem get?_resolve {key : String} {entry : CacheEntry}
    (found : (cache.resolve inner now signer keyId).2.entries.get? key = some entry) :
    cache.entries.get? key = some entry ∨ key = composeKey signer keyId ∧
      cache.asked inner now signer keyId = some entry.outcome.toResult ∧
      (cache.resolve inner now signer keyId).1 = entry.outcome.toResult ∧
      entry.expiresAt =
        saturatingAdd now (lifetime cache.tSecs cache.negativeTtlSecs entry.outcome.toResult) := by
  rcases cache.resolve_cases inner now signer keyId with
    ⟨_, _, _, _, resolved⟩ | ⟨_, asked, resolved⟩
  · rw [resolved] at found
    exact .inl found
  rw [asked, resolved]
  rw [resolved] at found
  dsimp only at found
  rcases cache.remember_cases (composeKey signer keyId) (inner signer keyId) now with
    ⟨_, same⟩ | ⟨_, isResult, stored⟩
  · rw [same] at found
    exact .inl found
  rw [stored, store] at found
  by_cases own : key = composeKey signer keyId
  · rw [own, Assoc.SortedMap.get?_insert_self] at found
    cases found
    exact .inr ⟨own, by rw [isResult], isResult.symm, by rw [isResult]⟩
  · rw [Assoc.SortedMap.get?_insert_ne own] at found
    exact .inl found

theorem windows_resolve : (cache.resolve inner now signer keyId).2.tSecs = cache.tSecs ∧
    (cache.resolve inner now signer keyId).2.negativeTtlSecs = cache.negativeTtlSecs := by
  simp only [resolve, remember]
  split
  · exact ⟨rfl, rfl⟩
  · split <;> exact ⟨rfl, rfl⟩

end BoundedTrustCache

/-! ## Runs -/

/-- A call on the cache; the inner resolver is given by its answers at that time. -/
inductive TrustCall where
  | resolve (clock : I64) (inner : TrustResolver) (signer keyId : String)
  | evict (signer keyId : String)
  | prune (now : I64)

/-- What a call did; `asked` is what the inner resolver returned in it, if it was asked. -/
inductive TrustEvent where
  | resolved (clock : I64) (signer keyId : String) (asked : Option TrustAnswer)
      (answer : TrustAnswer)
  | evicted (signer keyId : String)
  | pruned
  deriving DecidableEq

namespace BoundedTrustCache

def step (cache : BoundedTrustCache) : TrustCall → TrustEvent × BoundedTrustCache
  | .resolve clock inner signer keyId =>
    let (answer, next) := cache.resolve inner clock.val signer keyId
    (.resolved clock signer keyId (cache.asked inner clock.val signer keyId) answer, next)
  | .evict signer keyId => (.evicted signer keyId, (cache.evict signer keyId).2)
  | .prune now => (.pruned, cache.prune now.val)

def machine : Machine BoundedTrustCache TrustCall TrustEvent := ⟨step⟩

/-- A call in which the inner resolver gave the answer an entry holds, for the pair of the
entry and with the entry's expiry. -/
def Produces (tSecs negativeTtlSecs : Int) (signer keyId : String) (entry : CacheEntry)
    (event : TrustEvent) : Prop :=
  ∃ clock : I64, event = .resolved clock signer keyId (some entry.outcome.toResult)
      entry.outcome.toResult ∧
    entry.expiresAt =
      saturatingAdd clock.val (lifetime tSecs negativeTtlSecs entry.outcome.toResult)

/-- Every entry was produced by an earlier call for its pair, which was not evicted since. -/
structure Provenance (tSecs negativeTtlSecs : Int) (past : List TrustEvent)
    (cache : BoundedTrustCache) : Prop where
  window : cache.tSecs = tSecs
  negativeWindow : cache.negativeTtlSecs = negativeTtlSecs
  produced : ∀ signer keyId entry, cache.entries.get? (composeKey signer keyId) = some entry →
    Since (Produces tSecs negativeTtlSecs signer keyId entry) (· ≠ .evicted signer keyId) past

section

variable {tSecs negativeTtlSecs : Int} {past : List TrustEvent} {cache : BoundedTrustCache}

/-- An event that evicts nothing leaves the entries with their producers. -/
theorem Provenance.of_entries (provenance : Provenance tSecs negativeTtlSecs past cache)
    {next : BoundedTrustCache} {event : TrustEvent} (window : next.tSecs = cache.tSecs)
    (negativeWindow : next.negativeTtlSecs = cache.negativeTtlSecs)
    (kept : ∀ signer keyId entry, next.entries.get? (composeKey signer keyId) = some entry →
      cache.entries.get? (composeKey signer keyId) = some entry ∧
          event ≠ .evicted signer keyId ∨
        Produces tSecs negativeTtlSecs signer keyId entry event) :
    Provenance tSecs negativeTtlSecs (past ++ [event]) next where
  window := window.trans provenance.window
  negativeWindow := negativeWindow.trans provenance.negativeWindow
  produced := by
    intro signer keyId entry found
    rcases kept signer keyId entry found with ⟨before, notEvicted⟩ | producing
    · exact (provenance.produced signer keyId entry before).concat notEvicted
    · exact since_concat producing

theorem provenance_step (past : List TrustEvent) (cache : BoundedTrustCache) (call : TrustCall)
    (provenance : Provenance tSecs negativeTtlSecs past cache) :
    Provenance tSecs negativeTtlSecs (past ++ [(machine.step cache call).1])
      (machine.step cache call).2 := by
  cases call with
  | resolve clock inner signer keyId =>
    refine provenance.of_entries windows_resolve.1 windows_resolve.2 ?_
    intro signer' keyId' entry found
    rcases get?_resolve found with before | ⟨same, asked, answered, expires⟩
    · exact .inl ⟨before, by rintro ⟨⟩⟩
    · obtain ⟨rfl, rfl⟩ := composeKey_injective same
      rw [provenance.window, provenance.negativeWindow] at expires
      simp only [machine, step, asked, answered]
      exact .inr ⟨clock, rfl, expires⟩
  | evict signer keyId =>
    refine provenance.of_entries rfl rfl ?_
    intro signer' keyId' entry found
    by_cases sameKey : composeKey signer' keyId' = composeKey signer keyId
    · have gone : (cache.entries.remove (composeKey signer keyId)).get?
          (composeKey signer keyId) = none := find?_erase_self _ _
      rw [sameKey] at found
      cases gone.symm.trans found
    · refine .inl ⟨(Assoc.SortedMap.get?_remove_ne sameKey).symm.trans found, ?_⟩
      intro same
      cases same
      exact sameKey rfl
  | prune now =>
    refine provenance.of_entries rfl rfl ?_
    intro signer keyId entry found
    refine .inl ⟨?_, by rintro ⟨⟩⟩
    have retained := Assoc.SortedMap.get?_retain.symm.trans found
    exact (Option.filter_eq_some_iff.mp retained).1

end

theorem provenance_new (tSecs negativeTtlSecs : Int) :
    Provenance (max tSecs 0) (max negativeTtlSecs 0) [] (new tSecs negativeTtlSecs) :=
  ⟨rfl, rfl, nofun⟩

/-- The answer of a call was given by the inner resolver for the same pair, in this call or in
an earlier one less than its lifetime ago with no eviction of the pair since; that the source
is unavailable is only reported by a call in which it was. -/
def BoundedStaleness (tSecs negativeTtlSecs : Int) (past : List TrustEvent) : TrustEvent → Prop
  | .resolved clock signer keyId asked answer =>
    (asked = some answer ∨
      Since
        (fun event => ∃ earlier : I64,
          event = .resolved earlier signer keyId (some answer) answer ∧
          clock.val - earlier.val < lifetime (max tSecs 0) (max negativeTtlSecs 0) answer)
        (fun event => event ≠ .evicted signer keyId) past) ∧
    ∀ details, answer = .error (.unavailable details) → asked = some answer
  | .evicted _ _ | .pruned => True

theorem lifetime_nonneg (tSecs negativeTtlSecs : Int) (answer : TrustAnswer) :
    0 ≤ lifetime (max tSecs 0) (max negativeTtlSecs 0) answer := by
  unfold lifetime
  split <;> simp

/-- Bounded staleness of every answer in every run of a new cache. -/
theorem boundedStaleness_of_run (tSecs negativeTtlSecs : Int) (calls : List TrustCall)
    {past future : List TrustEvent} {event : TrustEvent}
    (happened : machine.answers (new tSecs negativeTtlSecs) calls = past ++ event :: future) :
    BoundedStaleness tSecs negativeTtlSecs past event := by
  refine Machine.forall_answers
    (fun past state call provenance _ => provenance_step past state call provenance) ?_
    (provenance_new tSecs negativeTtlSecs) (Machine.allowed_true _ calls) happened
  intro past cache call provenance _
  cases call with
  | evict _ _ | prune _ => trivial
  | resolve clock inner signer keyId =>
    rcases cache.resolve_cases inner clock.val signer keyId with
      ⟨entry, found, inTime, quiet, resolved⟩ | ⟨_, asked, resolved⟩
    · simp only [machine, step, quiet, resolved]
      constructor
      · right
        apply (provenance.produced signer keyId entry found).imp _ fun _ => id
        rintro event ⟨earlier, same, expires⟩
        refine ⟨earlier, same, ?_⟩
        have bound := saturatingAdd_le earlier
          (lifetime_nonneg tSecs negativeTtlSecs entry.outcome.toResult)
        omega
      · intro details unavailable
        exact absurd unavailable (CachedOutcome.toResult_ne_unavailable _ _)
    · simp only [machine, step, asked, resolved]
      exact ⟨.inl rfl, fun _ _ => rfl⟩

/-- A resolver that knows one key for everyone. -/
def oneKeyResolver : TrustResolver := fun _ _ => .ok ⟨List.replicate 32 7⟩

theorem zero_inI64 : i64Min ≤ 0 ∧ 0 ≤ i64Max := by decide

theorem one_inI64 : i64Min ≤ 1 ∧ 1 ≤ i64Max := by decide

/-- A lookup, and another one after the key was revoked but within its window. -/
def revokedRun : List TrustCall :=
  [.resolve ⟨0, zero_inI64⟩ oneKeyResolver "did:example:agent-1" "key-1",
    .resolve ⟨30, by decide⟩ (fun _ _ => .error .revoked) "did:example:agent-1" "key-1"]

def freshLookup : TrustEvent :=
  .resolved ⟨0, zero_inI64⟩ "did:example:agent-1" "key-1" (some (.ok ⟨List.replicate 32 7⟩))
    (.ok ⟨List.replicate 32 7⟩)

def staleLookup : TrustEvent :=
  .resolved ⟨30, by decide⟩ "did:example:agent-1" "key-1" none (.ok ⟨List.replicate 32 7⟩)

theorem boundedStaleness_of_run_revoked :
    machine.answers (new defaultTSecs defaultNegativeTtlSecs) revokedRun =
        [freshLookup] ++ staleLookup :: [] ∧
      BoundedStaleness defaultTSecs defaultNegativeTtlSecs [freshLookup] staleLookup := by
  have happened : machine.answers (new defaultTSecs defaultNegativeTtlSecs) revokedRun =
      [freshLookup] ++ staleLookup :: [] := by
    decide +kernel
  exact ⟨happened, boundedStaleness_of_run _ _ _ happened⟩

/-! ## Memory -/

/-- One lookup of a pair. -/
structure Lookup where
  clock : I64
  inner : TrustResolver
  signer : String
  keyId : String

def Lookup.pair (lookup : Lookup) : String × String := (lookup.signer, lookup.keyId)

def Lookup.call (lookup : Lookup) : TrustCall :=
  .resolve lookup.clock lookup.inner lookup.signer lookup.keyId

/-- The key of a pair. -/
def pairKey (pair : String × String) : String := composeKey pair.1 pair.2

theorem pairKey_injective : Function.Injective pairKey := by
  intro left right same
  obtain ⟨signers, keyIds⟩ := composeKey_injective same
  exact Prod.ext signers keyIds

/-- The different pairs of a list whose window in the cache is open. -/
def openPairs (cache : BoundedTrustCache) (pairs : List (String × String)) (now : Int) :
    List (String × String) :=
  pairs.dedup.filter fun pair => (cache.cached (pairKey pair) now).isSome

/-- The entry's window is open. -/
def isOpen (now : Int) (entry : String × CacheEntry) : Bool := now < entry.2.expiresAt

/-- Every entry is the entry of a pair of the list. -/
def Covers (pairs : List (String × String)) (cache : BoundedTrustCache) : Prop :=
  ∀ key entry, cache.entries.get? key = some entry → ∃ pair ∈ pairs, key = pairKey pair

variable {cache : BoundedTrustCache}

theorem cached_isSome_iff {key : String} {now : Int} :
    (cache.cached key now).isSome ↔
      ∃ entry, cache.entries.get? key = some entry ∧ now < entry.expiresAt := by
  unfold cached
  cases cache.entries.get? key with
  | none => simp
  | some entry => by_cases inTime : now < entry.expiresAt <;> simp [inTime]

variable {pairs : List (String × String)}

theorem length_openPairs (covers : Covers pairs cache) (now : Int) :
    (cache.openPairs pairs now).length = cache.entries.val.countP (isOpen now) := by
  have distinct : (cache.entries.val.map Prod.fst).Nodup := by
    apply pairwise_map.mpr
    exact cache.entries.property.imp ne_of_irrefl
  have filtered : ((cache.entries.val.filter (isOpen now)).map Prod.fst).Nodup :=
    distinct.sublist (filter_sublist.map Prod.fst)
  have pairsDistinct : ((cache.openPairs pairs now).map pairKey).Nodup :=
    ((nodup_dedup pairs).filter _).map pairKey_injective
  have same : ((cache.openPairs pairs now).map pairKey).Perm
      ((cache.entries.val.filter (isOpen now)).map Prod.fst) := by
    rw [perm_ext_iff_of_nodup pairsDistinct filtered]
    intro key
    constructor
    · intro member
      obtain ⟨pair, isOpenPair, rfl⟩ := mem_map.mp member
      obtain ⟨entry, found, inTime⟩ := cached_isSome_iff.mp (mem_filter.mp isOpenPair).2
      exact mem_map.mpr ⟨(pairKey pair, entry),
        mem_filter.mpr ⟨mem_of_find? found, decide_eq_true inTime⟩, rfl⟩
    · intro member
      obtain ⟨⟨key, entry⟩, isOpenEntry, rfl⟩ := mem_map.mp member
      obtain ⟨stored, inTime⟩ := mem_filter.mp isOpenEntry
      have found : cache.entries.get? key = some entry := cache.entries.property.find?_of_mem stored
      obtain ⟨pair, known, rfl⟩ := covers key entry found
      refine mem_map.mpr ⟨pair, mem_filter.mpr ⟨mem_dedup.mpr known, ?_⟩, rfl⟩
      exact cached_isSome_iff.mpr ⟨entry, found, of_decide_eq_true inTime⟩
  rw [countP_eq_length_filter, ← length_map (f := pairKey), same.length_eq, length_map]

theorem covers_step (covers : Covers pairs cache) (lookup : Lookup) :
    Covers (pairs ++ [lookup.pair]) (machine.step cache lookup.call).2 := by
  intro key entry found
  rcases get?_resolve found with before | ⟨own, _⟩
  · obtain ⟨pair, known, same⟩ := covers key entry before
    exact ⟨pair, mem_append_left _ known, same⟩
  · exact ⟨lookup.pair, by simp, own⟩

theorem covers_lookups (cache : BoundedTrustCache) {pairs : List (String × String)}
    (covers : Covers pairs cache) (lookups : List Lookup) :
    Covers (pairs ++ lookups.map Lookup.pair) (machine.after cache (lookups.map Lookup.call)) := by
  induction lookups generalizing cache pairs with
  | nil => simpa [Machine.after] using covers
  | cons lookup rest ih =>
    have next := ih _ (covers_step covers lookup)
    simpa [Machine.after] using next

/-- The closed entries of the other pairs. -/
def closedOthers (cache : BoundedTrustCache) (signer keyId : String) (now : Int) : Nat :=
  (Assoc.erase (composeKey signer keyId) cache.entries.val).countP fun entry => !isOpen now entry

/-- A call leaves the entry of its own pair closed: an expired one because the source was
unavailable, or a new one because it is not kept at all. -/
def leavesClosed (cache : BoundedTrustCache) (inner : TrustResolver) (signer keyId : String)
    (now : Int) : Bool :=
  match cache.cached (composeKey signer keyId) now, inner signer keyId with
  | some _, _ => false
  | none, .error (.unavailable _) => (cache.entries.get? (composeKey signer keyId)).isSome
  | none, answer => saturatingAdd now (lifetime cache.tSecs cache.negativeTtlSecs answer) ≤ now

theorem distinct_entries (cache : BoundedTrustCache) :
    cache.entries.val.Pairwise fun earlier later => earlier.1 ≠ later.1 :=
  cache.entries.property.imp ne_of_irrefl

theorem closed_resolve (cache : BoundedTrustCache) (inner : TrustResolver) (signer keyId : String)
    (now : Int) :
    (cache.resolve inner now signer keyId).2.entries.val.countP (fun entry => !isOpen now entry) =
      cache.closedOthers signer keyId now + (cache.leavesClosed inner signer keyId now).toNat := by
  rw [closedOthers, countP_eq_erase_add (distinct_entries _) (composeKey signer keyId)]
  rcases cache.resolve_cases inner now signer keyId with
    ⟨entry, found, inTime, _, resolved⟩ | ⟨miss, _, resolved⟩
  · have hit : (cache.cached (composeKey signer keyId) now) = some entry.outcome.toResult := by
      simp [cached, found, inTime]
    have held : find? (composeKey signer keyId) cache.entries.val = some entry := found
    simp [resolved, leavesClosed, hit, held, isOpen, inTime]
  · rw [resolved]
    rcases cache.remember_cases (composeKey signer keyId) (inner signer keyId) now with
      ⟨⟨_, unavailable⟩, same⟩ | ⟨outcome, isResult, stored⟩
    · rw [same, leavesClosed, miss, unavailable]
      cases found : cache.entries.get? (composeKey signer keyId) with
      | none =>
        have absent : find? (composeKey signer keyId) cache.entries.val = none := found
        simp [absent]
      | some entry =>
        have held : find? (composeKey signer keyId) cache.entries.val = some entry := found
        have late : ¬ now < entry.expiresAt := by
          intro inTime
          have hit := cached_isSome_iff.mpr ⟨entry, found, inTime⟩
          rw [miss] at hit
          cases hit
        simp [held, isOpen, late]
    · have kept : cache.leavesClosed inner signer keyId now =
          decide (saturatingAdd now (lifetime cache.tSecs cache.negativeTtlSecs
            (inner signer keyId)) ≤ now) := by
        rw [leavesClosed, miss, ← isResult]
        cases outcome <;> rfl
      rw [stored, kept]
      simp [store, Assoc.SortedMap.insert, isOpen, ← decide_not]

/-- The bound on the memory of the cache after a lookup: it holds not more entries than there
are pairs with an open window, plus one.  Lookups take nothing out, so it holds exactly when
not more than one entry is closed by then, that of the pair itself included. -/
theorem size_le_openPairs_iff (tSecs negativeTtlSecs : Int) (lookups : List Lookup)
    (lookup : Lookup) :
    let before := machine.after (new tSecs negativeTtlSecs) (lookups.map Lookup.call)
    let after := machine.after (new tSecs negativeTtlSecs)
      ((lookups ++ [lookup]).map Lookup.call)
    after.entries.size ≤
        (after.openPairs ((lookups ++ [lookup]).map Lookup.pair) lookup.clock.val).length + 1 ↔
      before.closedOthers lookup.signer lookup.keyId lookup.clock.val +
        (before.leavesClosed lookup.inner lookup.signer lookup.keyId lookup.clock.val).toNat ≤
        1 := by
  intro before after
  have resolved : after =
      (before.resolve lookup.inner lookup.clock.val lookup.signer lookup.keyId).2 := by
    simp only [after, before, List.map_append, Machine.after_append]
    rfl
  have covers : Covers ((lookups ++ [lookup]).map Lookup.pair) after :=
    @covers_lookups (new tSecs negativeTtlSecs) [] nofun (lookups ++ [lookup])
  have counted : after.entries.size = after.entries.val.countP (isOpen lookup.clock.val) +
      after.entries.val.countP (fun entry => !isOpen lookup.clock.val entry) := by
    simpa [Assoc.SortedMap.size] using List.length_eq_countP_add_countP (isOpen lookup.clock.val)
  rw [length_openPairs covers, counted, ← closed_resolve, ← resolved]
  omega

/-- Two callers that are never heard of again, and one long after their windows closed. -/
def forgottenLookups : List Lookup :=
  [⟨⟨0, zero_inI64⟩, fun _ _ => .error .notFound, "did:example:anyone-1", "key-1"⟩,
    ⟨⟨1, one_inI64⟩, fun _ _ => .error .notFound, "did:example:anyone-2", "key-1"⟩,
    ⟨⟨1000, by decide⟩, fun _ _ => .error .notFound, "did:example:anyone-3", "key-1"⟩]

/-- The cache as it is deployed holds three entries when one window is open. -/
theorem size_gt_openPairs_forgotten :
    (forgottenLookups.map fun lookup => lookup.clock.val).Pairwise (· ≤ ·) ∧
      (machine.after (new defaultTSecs defaultNegativeTtlSecs)
        (forgottenLookups.map Lookup.call)).entries.size = 3 ∧
      (openPairs (machine.after (new defaultTSecs defaultNegativeTtlSecs)
        (forgottenLookups.map Lookup.call)) (forgottenLookups.map Lookup.pair) 1000).length = 1 := by
  decide +kernel

end BoundedTrustCache

end Mcps.Proxy
