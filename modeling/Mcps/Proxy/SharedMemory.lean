import Mcps.Core.Reference
import Mcps.Lib.Framing
import Mcps.Lib.Transition
import Mcps.Proxy.SharedReplay

/-!
# The shared in-memory store

A replay store that the proxies of one process share, each through a shared replay cache
of its own.  Its keys are digests of the framed triples; a store that is full, or whose
lock was poisoned, refuses.

As long as it is not full and the digest tells the triples apart, the proxies together
decide as one in-memory replay cache that is given all their calls.
-/

namespace Mcps.Proxy

/-! ## The store -/

def maxAtomicStoreEntries : Nat := 1000000

/-- The entries behind the lock, with whether a holder of the lock failed. -/
structure InMemoryAtomicReplayStore where
  seen : Assoc.SortedMap codePointLt Int
  maxEntries : Nat
  poisoned : Bool

namespace InMemoryAtomicReplayStore

def new : InMemoryAtomicReplayStore := ⟨.empty, maxAtomicStoreEntries, false⟩

def withMaxEntries (store : InMemoryAtomicReplayStore) (maxEntries : Nat) :
    InMemoryAtomicReplayStore :=
  { store with maxEntries }

def prune (store : InMemoryAtomicReplayStore) (nowUnix : Int) : InMemoryAtomicReplayStore :=
  if store.poisoned then store
  else { store with seen := store.seen.retain fun entry => nowUnix ≤ entry.2 }

def insertIfAbsent (key : String) (expiresAtUnix nowUnix : Int) :
    StateM InMemoryAtomicReplayStore (Except ReplayStoreError ReplayDecision) := fun store =>
  if isStalePreStore expiresAtUnix nowUnix then (.error (staleError expiresAtUnix nowUnix), store)
  else if store.poisoned then
    (.error (.unavailable
      "shared store mutex poisoned: poisoned lock: another task failed inside"), store)
  else if (store.seen.get? key).isSome then (.ok .replay, store)
  else if store.maxEntries ≤ store.seen.size then
    (.error (.unavailable ("in-memory shared replay store at capacity (" ++
      toString store.maxEntries ++
      " entries); refusing further nonces until expired entries are pruned")), store)
  else (.ok .fresh, { store with seen := store.seen.insert key expiresAtUnix })

/-- The store as the proxies share it. -/
def shared : AtomicReplayStore (StateM InMemoryAtomicReplayStore) := ⟨insertIfAbsent⟩

end InMemoryAtomicReplayStore

/-! ## Keys -/

namespace SharedReplayCache

theorem keyPreimage_injective {signer audience nonce signer' audience' nonce' : String}
    (same : keyPreimage signer audience nonce = keyPreimage signer' audience' nonce') :
    signer = signer' ∧ audience = audience' ∧ nonce = nonce' := by
  have framed : ∀ signer audience nonce : String, keyPreimage signer audience nonce =
      Framing.frameText signer ++ ("|" ++ (Framing.frameText audience ++
        ("|" ++ (Framing.frameText nonce ++ "")))) := by
    intro signer audience nonce
    simp [keyPreimage, Framing.frameText, String.append_assoc]
  rw [framed, framed] at same
  obtain ⟨signers, same⟩ := Framing.frameText_append_inj same
  rcases Framing.frameText_append_inj (String.append_right_inj _ |>.mp same) with
    ⟨audiences, same⟩
  obtain ⟨nonces, _⟩ := Framing.frameText_append_inj (String.append_right_inj _ |>.mp same)
  exact ⟨signers, audiences, nonces⟩

end SharedReplayCache

/-! ## Runs -/

/-- A call of one of the proxies, or a pruning of the store. -/
inductive SharedCall (ι : Type) where
  | checkAndInsert (node : ι) (signer audience nonce : String) (expiresAtUnix : Int)
  | prune (nowUnix : Int)

namespace SharedCall

variable {ι : Type}

/-- What the digest of a call's key is taken of. -/
def keyPreimage? : SharedCall ι → Option String
  | checkAndInsert _ signer audience nonce _ =>
    some (SharedReplayCache.keyPreimage signer audience nonce)
  | prune _ => none

/-- A call finds the store with room left, and its retention ends after the epoch. -/
def Fits (skew : Int) (store : InMemoryAtomicReplayStore) : SharedCall ι → Prop
  | checkAndInsert _ _ _ _ expiresAtUnix =>
    0 < expiresAtUnix + skew ∧ store.seen.size < store.maxEntries
  | prune _ => True

instance (skew : Int) (store : InMemoryAtomicReplayStore) :
    (call : SharedCall ι) → Decidable (call.Fits skew store)
  | checkAndInsert _ _ _ _ expiresAtUnix => inferInstanceAs
      (Decidable (0 < expiresAtUnix + skew ∧ store.seen.size < store.maxEntries))
  | prune _ => inferInstanceAs (Decidable True)

end SharedCall

/-- One in-memory cache that is given every call. -/
def singleMachine (ι : Type) :
    Machine InMemoryReplayCache (SharedCall ι) (Option (Except ReplayCacheError ReplayDecision)) where
  step cache call :=
    match call with
    | .checkAndInsert _ signer audience nonce expiresAtUnix =>
      let (decision, cache) := cache.checkAndInsert signer audience nonce expiresAtUnix
      (some decision, cache)
    | .prune nowUnix => (none, cache.prune nowUnix)

section

variable [Crates] {ι : Type}

/-- The proxies over clones of one store, each with its skew. -/
def sharedMachine (skews : ι → Int) :
    Machine InMemoryAtomicReplayStore (SharedCall ι)
      (Option (Except ReplayCacheError ReplayDecision)) where
  step store call :=
    match call with
    | .checkAndInsert node signer audience nonce expiresAtUnix =>
      let cache : SharedReplayCache (StateM InMemoryAtomicReplayStore) :=
        ⟨InMemoryAtomicReplayStore.shared, skews node⟩
      let (decision, store) :=
        (cache.checkAndInsert signer audience nonce expiresAtUnix).run store
      (some decision, store)
    | .prune nowUnix => (none, store.prune nowUnix)

/-- With room, a sound lock and a retention after the epoch, the store decides by the key. -/
theorem run_checkAndInsert {store : InMemoryAtomicReplayStore} {skew : Int}
    {signer audience nonce : String} {expiresAtUnix : Int} (sound : store.poisoned = false)
    (positive : 0 < expiresAtUnix + skew) (room : store.seen.size < store.maxEntries) :
    (SharedReplayCache.checkAndInsert ⟨InMemoryAtomicReplayStore.shared, skew⟩ signer audience
      nonce expiresAtUnix).run store =
      if (store.seen.get? (SharedReplayCache.compositeKey signer audience nonce)).isSome then
        (.ok .replay, store)
      else (.ok .fresh, { store with
        seen := store.seen.insert (SharedReplayCache.compositeKey signer audience nonce)
          (saturatingAdd expiresAtUnix skew) }) := by
  have notStale : isStalePreStore (saturatingAdd expiresAtUnix skew) 0 = false := by
    apply decide_eq_false
    simp only [saturatingSub, saturatingAdd, clampI64, i64Max]
    omega
  change (let answer := InMemoryAtomicReplayStore.insertIfAbsent _ _ 0 store;
    (answer.1.mapError ReplayStoreError.toReplayCacheError, answer.2)) = _
  simp only [InMemoryAtomicReplayStore.insertIfAbsent, notStale, sound, Bool.false_eq_true,
    ↓reduceIte, if_neg (not_le.mpr room)]
  split <;> rfl

/-- The store and the cache hold the same triples, as far as the digest tells them apart. -/
structure Refines (skew : Int) (known : Set String) (store : InMemoryAtomicReplayStore)
    (cache : InMemoryReplayCache) : Prop where
  sameSkew : cache.maxClockSkewSecs = skew
  sound : store.poisoned = false
  unique : cache.seen.Pairwise fun earlier later => earlier.1 ≠ later.1
  held : ∀ {signer audience nonce : String},
    SharedReplayCache.keyPreimage signer audience nonce ∈ known →
      store.seen.get? (SharedReplayCache.compositeKey signer audience nonce) =
        Assoc.find? (signer, audience, nonce) cache.seen

variable {skew : Int} {known : Set String} {store : InMemoryAtomicReplayStore}
  {cache : InMemoryReplayCache}

theorem Refines.prune (refines : Refines skew known store cache) (nowUnix : Int) :
    Refines skew known (store.prune nowUnix) (cache.prune nowUnix) := by
  rw [InMemoryAtomicReplayStore.prune, if_neg (by simp [refines.sound])]
  refine ⟨refines.sameSkew, refines.sound, refines.unique.filter _, ?_⟩
  intro signer audience nonce isKnown
  rw [InMemoryReplayCache.prune, Assoc.find?_filter_eq refines.unique, ← refines.held isKnown]
  exact Assoc.SortedMap.get?_retain

theorem Refines.checkAndInsert (refines : Refines skew known store cache)
    (injective : Set.InjOn (fun preimage => sha256HashId (textBytes preimage)) known)
    {signer audience nonce : String} {expiresAtUnix : Int}
    (isKnown : SharedReplayCache.keyPreimage signer audience nonce ∈ known)
    (positive : 0 < expiresAtUnix + skew) (room : store.seen.size < store.maxEntries) :
    let shared := (SharedReplayCache.checkAndInsert ⟨InMemoryAtomicReplayStore.shared, skew⟩
      signer audience nonce expiresAtUnix).run store
    let single := cache.checkAndInsert signer audience nonce expiresAtUnix
    shared.1 = single.1 ∧ Refines skew known shared.2 single.2 := by
  rw [run_checkAndInsert refines.sound positive room, refines.held isKnown,
    InMemoryReplayCache.checkAndInsert]
  split
  next => exact ⟨rfl, refines⟩
  next absent =>
    have missing : Assoc.find? (signer, audience, nonce) cache.seen = none := by
      simpa using absent
    refine ⟨rfl, refines.sameSkew, refines.sound, ?_, ?_⟩
    · apply List.pairwise_cons.mpr
      exact ⟨fun entry member => (Assoc.find?_eq_none_iff.mp missing entry member).symm,
        refines.unique⟩
    · intro signer' audience' nonce' otherKnown
      by_cases same : (signer', audience', nonce') = (signer, audience, nonce)
      · cases same
        rw [Assoc.SortedMap.get?_insert_self, Assoc.find?_cons_self, refines.sameSkew]
      · have apart : SharedReplayCache.compositeKey signer' audience' nonce' ≠
            SharedReplayCache.compositeKey signer audience nonce := by
          intro digests
          have preimages := injective otherKnown isKnown digests
          obtain ⟨rfl, rfl, rfl⟩ := SharedReplayCache.keyPreimage_injective preimages
          exact same rfl
        rw [Assoc.SortedMap.get?_insert_ne apart, Assoc.find?_cons_ne (Ne.symm same),
          refines.held otherKnown]

/-- Proxies over one in-memory store, in any interleaving, decide as one in-memory cache
that is given the same calls in the same order. -/
theorem sharedMachine_answers_eq_singleMachine {skews : ι → Int}
    (common : ∀ node, skews node = skew) (maxEntries : Nat) (calls : List (SharedCall ι))
    (injective : Set.InjOn (fun preimage => sha256HashId (textBytes preimage))
      {preimage | ∃ call ∈ calls, call.keyPreimage? = some preimage})
    (fits : (sharedMachine skews).Allowed (SharedCall.Fits skew)
      (InMemoryAtomicReplayStore.new.withMaxEntries maxEntries) calls) :
    (sharedMachine skews).answers (InMemoryAtomicReplayStore.new.withMaxEntries maxEntries) calls =
      (singleMachine ι).answers (.new skew) calls := by
  let known := {preimage | ∃ call ∈ calls, call.keyPreimage? = some preimage}
  have fitting := fits.and_of_forall (fun call member => member : ∀ call ∈ calls, call ∈ calls)
  apply Machine.answers_eq_of_related (Refines skew known) _ _ fitting
  · rintro store cache (⟨node, signer, audience, nonce, expiresAtUnix⟩ | nowUnix) refines
      ⟨fits, member⟩
    · have isKnown : SharedReplayCache.keyPreimage signer audience nonce ∈ known :=
        ⟨_, member, rfl⟩
      have decided := refines.checkAndInsert injective isKnown fits.1 fits.2
      rw [← common node] at decided ⊢
      exact ⟨congrArg some decided.1, decided.2⟩
    · exact ⟨rfl, refines.prune nowUnix⟩
  · exact ⟨rfl, rfl, List.Pairwise.nil, fun _ => rfl⟩

end

/-! ## Two proxies -/

/-- Crates that know the digests of two keys. -/
@[reducible] def twoDigestCrates : Crates :=
  { vectorCrates with
    sha256 := fun bytes =>
      if bytes = textBytes "19:did:example:agent-1|20:did:example:server-1|7:nonce-1" then
        (b64urlDecodeText "BA-tvGe4Z5GlPC0-7gD-HmjgFAAfWPKOnU9v8pBJYLY").getD []
      else if bytes = textBytes "19:did:example:agent-1|20:did:example:server-1|7:nonce-2" then
        (b64urlDecodeText "YmDjS3r5b6sTMWfekiIrQRKFslmROIhUJUqVSuUS5sg").getD []
      else [] }

/-- A triple that comes to both proxies, a second triple, and a pruning after which the
first one is new again. -/
def twoProxyCalls : List (SharedCall Bool) :=
  [.checkAndInsert false "did:example:agent-1" "did:example:server-1" "nonce-1" 1000,
    .checkAndInsert true "did:example:agent-1" "did:example:server-1" "nonce-1" 1000,
    .checkAndInsert true "did:example:agent-1" "did:example:server-1" "nonce-2" 2000,
    .prune 1301,
    .checkAndInsert false "did:example:agent-1" "did:example:server-1" "nonce-1" 1400]

theorem sharedMachine_answers_eq_singleMachine_two_proxies :
    letI := twoDigestCrates
    (sharedMachine fun _ : Bool => 300).answers (InMemoryAtomicReplayStore.new.withMaxEntries 2)
        twoProxyCalls =
      (singleMachine Bool).answers (.new 300) twoProxyCalls ∧
    (singleMachine Bool).answers (.new 300) twoProxyCalls =
      [some (.ok .fresh), some (.ok .replay), some (.ok .fresh), none, some (.ok .fresh)] := by
  let crates := twoDigestCrates
  let first := "19:did:example:agent-1|20:did:example:server-1|7:nonce-1"
  let second := "19:did:example:agent-1|20:did:example:server-1|7:nonce-2"
  have preimages : ∀ call ∈ twoProxyCalls,
      call.keyPreimage? ∈ [some first, some second, none] := by
    decide +kernel
  have apart : ∀ left ∈ [first, second], ∀ right ∈ [first, second],
      sha256HashId (textBytes left) = sha256HashId (textBytes right) → left = right := by
    decide +kernel
  have among : ∀ preimage, (∃ call ∈ twoProxyCalls, call.keyPreimage? = some preimage) →
      preimage ∈ [first, second] := by
    rintro preimage ⟨call, member, taken⟩
    have found := preimages call member
    rw [taken] at found
    simpa using found
  refine ⟨sharedMachine_answers_eq_singleMachine (fun _ => rfl) 2 twoProxyCalls ?_
    (by decide +kernel), by decide +kernel⟩
  intro left leftTaken right rightTaken same
  exact apart left (among left leftTaken) right (among right rightTaken) same

end Mcps.Proxy
