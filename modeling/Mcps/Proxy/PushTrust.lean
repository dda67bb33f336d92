import Mcps.Proxy.TrustCache

/-!
# The push-invalidation trust cache

A bounded trust cache that is told of revocations.  The events wait in a channel; a lookup
first takes all of them and evicts their pairs, then asks the bounded cache.  The pending
events and the cache together never hold an answer from before a pushed revocation that a
lookup could return.
-/

namespace Mcps.Proxy

/-- A pushed revocation of a pair. -/
structure InvalidationEvent where
  signer : String
  keyId : String
  deriving DecidableEq, Repr

/-- A queue of events, and whether the channel is healthy. -/
structure InMemoryInvalidationChannel where
  pending : List InvalidationEvent
  healthy : Bool

namespace InMemoryInvalidationChannel

def new : InMemoryInvalidationChannel := ⟨[], true⟩

def pushRevocation (channel : InMemoryInvalidationChannel) (signer keyId : String) :
    InMemoryInvalidationChannel :=
  { channel with pending := channel.pending ++ [⟨signer, keyId⟩] }

def drainPending (channel : InMemoryInvalidationChannel) :
    List InvalidationEvent × InMemoryInvalidationChannel :=
  (channel.pending, { channel with pending := [] })

end InMemoryInvalidationChannel

structure PushInvalidationTrustCache where
  cache : BoundedTrustCache
  channel : InMemoryInvalidationChannel

namespace PushInvalidationTrustCache

def new (tSecs negativeTtlSecs : Int) : PushInvalidationTrustCache :=
  ⟨.new tSecs negativeTtlSecs, .new⟩

/-- Evict the pair of every event, and count the entries there were. -/
def evictAll (cache : BoundedTrustCache) : List InvalidationEvent → Nat × BoundedTrustCache
  | [] => (0, cache)
  | event :: rest =>
    let (present, cache) := cache.evict event.signer event.keyId
    let (evicted, cache) := evictAll cache rest
    (evicted + present.toNat, cache)

def applyPendingInvalidations (push : PushInvalidationTrustCache) :
    Nat × PushInvalidationTrustCache :=
  let (events, channel) := push.channel.drainPending
  let (evicted, cache) := evictAll push.cache events
  (evicted, ⟨cache, channel⟩)

def resolve (push : PushInvalidationTrustCache) (inner : TrustResolver) (now : Int)
    (signer keyId : String) : TrustAnswer × PushInvalidationTrustCache :=
  let push := push.applyPendingInvalidations.2
  let (answer, cache) := push.cache.resolve inner now signer keyId
  (answer, { push with cache })

end PushInvalidationTrustCache

/-! ## Runs -/

/-- A pushed revocation, or a lookup with the inner resolver's answers at that time. -/
inductive PushCall where
  | pushRevocation (signer keyId : String)
  | resolve (clock : I64) (inner : TrustResolver) (signer keyId : String)

/-- What a call did; `asked` is what the inner resolver returned in it, if it was asked. -/
inductive PushEvent where
  | pushed (signer keyId : String)
  | resolved (clock : I64) (signer keyId : String) (asked : Option TrustAnswer)
      (answer : TrustAnswer)
  deriving DecidableEq

namespace PushInvalidationTrustCache

def step (push : PushInvalidationTrustCache) : PushCall → PushEvent × PushInvalidationTrustCache
  | .pushRevocation signer keyId =>
    (.pushed signer keyId, { push with channel := push.channel.pushRevocation signer keyId })
  | .resolve clock inner signer keyId =>
    let (answer, next) := push.resolve inner clock.val signer keyId
    (.resolved clock signer keyId
      (push.applyPendingInvalidations.2.cache.asked inner clock.val signer keyId) answer, next)

def machine : Machine PushInvalidationTrustCache PushCall PushEvent := ⟨step⟩

theorem get?_evictAll (cache : BoundedTrustCache) (events : List InvalidationEvent)
    (signer keyId : String) :
    (evictAll cache events).2.entries.get? (BoundedTrustCache.composeKey signer keyId) =
      if ⟨signer, keyId⟩ ∈ events then none
      else cache.entries.get? (BoundedTrustCache.composeKey signer keyId) := by
  induction events generalizing cache with
  | nil => simp [evictAll]
  | cons event rest ih =>
    have next := ih (cache.evict event.signer event.keyId).2
    by_cases same : event = ⟨signer, keyId⟩
    · subst same
      have gone : (cache.evict signer keyId).2.entries.get?
          (BoundedTrustCache.composeKey signer keyId) = none := Assoc.find?_erase_self _ _
      simp only [evictAll, next, gone, List.mem_cons, true_or, ↓reduceIte, ite_self]
    · have different : BoundedTrustCache.composeKey signer keyId ≠
          BoundedTrustCache.composeKey event.signer event.keyId := by
        intro sameKey
        obtain ⟨rfl, rfl⟩ := BoundedTrustCache.composeKey_injective sameKey
        exact same rfl
      have unchanged : (cache.evict event.signer event.keyId).2.entries.get?
          (BoundedTrustCache.composeKey signer keyId) =
            cache.entries.get? (BoundedTrustCache.composeKey signer keyId) :=
        Assoc.SortedMap.get?_remove_ne different
      have other : ¬ (⟨signer, keyId⟩ : InvalidationEvent) = event := fun equal => same equal.symm
      simp only [evictAll, next, unchanged, List.mem_cons, other, false_or]

/-- A call in which the inner resolver gave the answer for the pair. -/
def Produces (signer keyId : String) (answer : TrustAnswer) (event : PushEvent) : Prop :=
  ∃ clock, event = .resolved clock signer keyId (some answer) answer

/-- Every entry will be evicted by a pending event, or was produced after the last push for
its pair. -/
def Provenance (past : List PushEvent) (push : PushInvalidationTrustCache) : Prop :=
  ∀ signer keyId entry,
    push.cache.entries.get? (BoundedTrustCache.composeKey signer keyId) = some entry →
    ⟨signer, keyId⟩ ∈ push.channel.pending ∨
      Since (Produces signer keyId entry.outcome.toResult) (· ≠ .pushed signer keyId) past

theorem Provenance.applied {past : List PushEvent} {push : PushInvalidationTrustCache}
    (provenance : Provenance past push) {signer keyId : String} {entry : CacheEntry}
    (found : push.applyPendingInvalidations.2.cache.entries.get?
      (BoundedTrustCache.composeKey signer keyId) = some entry) :
    Since (Produces signer keyId entry.outcome.toResult) (· ≠ .pushed signer keyId) past := by
  have evicted := (get?_evictAll push.cache push.channel.pending signer keyId).symm.trans found
  by_cases pending : ⟨signer, keyId⟩ ∈ push.channel.pending
  · rw [if_pos pending] at evicted
    cases evicted
  · rw [if_neg pending] at evicted
    exact (provenance signer keyId entry evicted).resolve_left pending

theorem provenance_step (past : List PushEvent) (push : PushInvalidationTrustCache)
    (call : PushCall) (provenance : Provenance past push) :
    Provenance (past ++ [(machine.step push call).1]) (machine.step push call).2 := by
  cases call with
  | pushRevocation signer keyId =>
    intro signer' keyId' entry found
    by_cases same : signer' = signer ∧ keyId' = keyId
    · obtain ⟨rfl, rfl⟩ := same
      exact .inl (List.mem_append_right _ List.mem_cons_self)
    · rcases provenance signer' keyId' entry found with pending | since
      · exact .inl (List.mem_append_left _ pending)
      · refine .inr (since.concat ?_)
        rintro ⟨⟩
        exact same ⟨rfl, rfl⟩
  | resolve clock inner signer keyId =>
    have applied := fun {signer keyId entry} =>
      @Provenance.applied past push provenance signer keyId entry
    simp only [machine, step, resolve]
    generalize push.applyPendingInvalidations.2 = drained at applied
    intro signer' keyId' entry found
    right
    rcases BoundedTrustCache.get?_resolve found with before | ⟨same, asked, answered, _⟩
    · exact (applied before).concat (by simp)
    · obtain ⟨rfl, rfl⟩ := BoundedTrustCache.composeKey_injective same
      rw [asked, answered]
      exact since_concat ⟨clock, rfl⟩

/-- The answer of a lookup was produced in this call, or after the last push for its pair. -/
def SincePush (past : List PushEvent) : PushEvent → Prop
  | .resolved _ signer keyId asked answer =>
    asked = some answer ∨
      Since (Produces signer keyId answer) (· ≠ .pushed signer keyId) past
  | .pushed _ _ => True

theorem sincePush_step (past : List PushEvent) (push : PushInvalidationTrustCache)
    (call : PushCall) (provenance : Provenance past push) :
    SincePush past (machine.step push call).1 := by
  cases call with
  | pushRevocation signer keyId => trivial
  | resolve clock inner signer keyId =>
    simp only [machine, step, resolve]
    rcases push.applyPendingInvalidations.2.cache.resolve_cases inner clock.val signer keyId with
      ⟨_, found, _, _, resolved⟩ | ⟨_, asked, resolved⟩
    · rw [resolved]
      exact .inr (provenance.applied found)
    · rw [asked, resolved]
      exact .inl rfl

/-- A pushed revocation takes effect on the next lookup: what a lookup of the pair answers
after it was given by the inner resolver after it, in this call or in one since the push.  So
where the inner resolver answers only that the key is revoked, that is the answer. -/
theorem resolve_after_push (tSecs negativeTtlSecs : Int) (calls : List PushCall)
    {before between after : List PushEvent} {signer keyId : String} {clock : I64}
    {asked : Option TrustAnswer} {answer : TrustAnswer}
    (happened : machine.answers (new tSecs negativeTtlSecs) calls =
      (before ++ .pushed signer keyId :: between) ++
        .resolved clock signer keyId asked answer :: after) :
    (asked = some answer ∨ ∃ event ∈ between, Produces signer keyId answer event) ∧
      ((∀ event ∈ between ++ [.resolved clock signer keyId asked answer],
          ∀ clock given returned, event = .resolved clock signer keyId (some given) returned →
            given = .error .revoked) →
        answer = .error .revoked) := by
  have sincePush : SincePush ([] ++ (before ++ .pushed signer keyId :: between))
      (.resolved clock signer keyId asked answer) :=
    Machine.forall_answers
      (fun past state call provenance _ => provenance_step past state call provenance)
      (fun past state call provenance _ => sincePush_step past state call provenance)
      (fun _ _ _ absent => by cases absent) (Machine.allowed_true _ calls) happened
  have produced : asked = some answer ∨ ∃ event ∈ between, Produces signer keyId answer event := by
    rcases sincePush with now | since
    · exact .inl now
    · refine .inr (since.of_append (fun stays => stays rfl) ?_)
      rintro ⟨_, impossible⟩
      cases impossible
  refine ⟨produced, fun onlyRevoked => ?_⟩
  rcases produced with rfl | ⟨event, member, earlier, rfl⟩
  · exact onlyRevoked _ (List.mem_append_right _ List.mem_cons_self) clock answer answer rfl
  · exact onlyRevoked _ (List.mem_append_left _ member) earlier answer answer rfl

/-- A lookup, a pushed revocation within the window, and another lookup. -/
def pushedRun : List PushCall :=
  [.resolve ⟨0, BoundedTrustCache.zero_inI64⟩ BoundedTrustCache.oneKeyResolver "did:example:agent-1" "key-1",
    .pushRevocation "did:example:agent-1" "key-1",
    .resolve ⟨1, BoundedTrustCache.one_inI64⟩ (fun _ _ => .error .revoked) "did:example:agent-1" "key-1"]

def heldLookup : PushEvent :=
  .resolved ⟨0, BoundedTrustCache.zero_inI64⟩ "did:example:agent-1" "key-1" (some (.ok ⟨List.replicate 32 7⟩))
    (.ok ⟨List.replicate 32 7⟩)

def revokedLookup : PushEvent :=
  .resolved ⟨1, BoundedTrustCache.one_inI64⟩ "did:example:agent-1" "key-1" (some (.error .revoked))
    (.error .revoked)

theorem resolve_after_push_revoked :
    machine.answers (new defaultTSecs defaultNegativeTtlSecs) pushedRun =
        ([heldLookup] ++ .pushed "did:example:agent-1" "key-1" :: []) ++ revokedLookup :: [] ∧
      (some (.error .revoked) = some (.error .revoked : TrustAnswer) ∨
        ∃ event ∈ [], Produces "did:example:agent-1" "key-1" (.error .revoked) event) := by
  have happened : machine.answers (new defaultTSecs defaultNegativeTtlSecs) pushedRun =
      ([heldLookup] ++ .pushed "did:example:agent-1" "key-1" :: []) ++ revokedLookup :: [] := by
    decide +kernel
  exact ⟨happened, (resolve_after_push _ _ _ happened).1⟩

end PushInvalidationTrustCache

end Mcps.Proxy
