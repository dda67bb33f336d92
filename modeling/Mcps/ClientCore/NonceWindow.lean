import Mcps.ClientCore.Correlation
import Mcps.Lib.History

/-!
# Live requests and their nonces

A request is live while a response would still be correlated with it, its deadline
included.  Its nonce is barred until that deadline, the deadline excluded.  So two live
requests can share a nonce, but only at the last instant of the first one.

Every entry that is registered is given back at most once.
-/

namespace Mcps.ClientCore.CorrelationStore

open List Option Assoc

/-! ## The store as a machine -/

/-- A call of the store. -/
inductive StoreCall where
  | register (request : PendingRequest)
  | takeForResponse (correlationId : String)
  | cancel (correlationId : String)
  | sweepExpired
  deriving DecidableEq, Repr

/-- A call at its time. -/
structure StoreEvent where
  nowUnix : Int
  call : StoreCall
  deriving DecidableEq, Repr

/-- What a call returned. -/
inductive StoreAnswer where
  | registered (request : PendingRequest) (result : Except CorrelationError Unit)
  | taken (correlationId : String) (result : Except CorrelationError PendingRequest)
  | cancelled (correlationId : String) (entry : Option PendingRequest)
  | swept (removed : Nat)

/-- The request that was entered. -/
def StoreAnswer.entered? : StoreAnswer → Option PendingRequest
  | .registered request (.ok ()) => some request
  | _ => none

/-- The entry that was given back under an id. -/
def StoreAnswer.returned? (correlationId : String) : StoreAnswer → Option PendingRequest
  | .taken requested (.ok entry) => if requested = correlationId then some entry else none
  | .cancelled requested entry => if requested = correlationId then entry else none
  | _ => none

def machine : Machine CorrelationStore StoreEvent StoreAnswer where
  step store event :=
    match event.call with
    | .register request =>
      let (result, store) := store.register request event.nowUnix
      (.registered request result, store)
    | .takeForResponse correlationId =>
      let (result, store) := store.takeForResponse correlationId event.nowUnix
      (.taken correlationId result, store)
    | .cancel correlationId =>
      let (entry, store) := store.cancel correlationId
      (.cancelled correlationId entry, store)
    | .sweepExpired =>
      let (removed, store) := store.sweepExpired event.nowUnix
      (.swept removed, store)

/-- Requests are only taken away, and no nonce whose window is open. -/
structure Shrinks (nowUnix : Int) (store next : CorrelationStore) : Prop where
  pending : next.pending.Sublist store.pending
  window : ∀ nonce retained, Assoc.find? nonce store.nonceWindow = some retained →
    nowUnix ≤ retained → Assoc.find? nonce next.nonceWindow = some retained

variable (nowUnix : Int) (store : CorrelationStore)

theorem Shrinks.refl : Shrinks nowUnix store store :=
  ⟨List.Sublist.refl _, fun _ _ found _ => found⟩

theorem shrinks_erase (correlationId : String) :
    Shrinks nowUnix store
      { store with pending := erase correlationId store.pending } :=
  ⟨filter_sublist, fun _ _ found _ => found⟩

theorem shrinks_sweepExpired : Shrinks nowUnix store (store.sweepExpired nowUnix).2 :=
  ⟨filter_sublist, fun _ _ found inTime =>
    find?_filter found (decide_eq_true inTime)⟩

/-- A step enters a request whose id and nonce are free, or only takes away. -/
theorem step_cases (event : StoreEvent) :
    (∃ request, (machine.step store event).1.entered? = some request ∧
        find? request.correlationId store.pending = none ∧
        (∀ retained, find? request.nonce store.nonceWindow = some retained →
          retained ≤ event.nowUnix) ∧
        (machine.step store event).2 = store.entered request) ∨
      (machine.step store event).1.entered? = none ∧
        Shrinks event.nowUnix store (machine.step store event).2 := by
  obtain ⟨nowUnix, call⟩ := event
  cases call with
  | register request =>
    rcases store.register_cases request nowUnix with ⟨_, refused⟩ | ⟨absent, free, entered⟩
    · simp only [machine, refused]
      exact .inr ⟨rfl, Shrinks.refl _ _⟩
    · simp only [machine, entered]
      exact .inl ⟨request, rfl, absent, free, rfl⟩
  | takeForResponse correlationId =>
    refine .inr ⟨rfl, ?_⟩
    simp only [machine, takeForResponse_snd]
    exact shrinks_erase _ _ _
  | cancel correlationId => exact .inr ⟨rfl, shrinks_erase _ _ _⟩
  | sweepExpired => exact .inr ⟨rfl, shrinks_sweepExpired _ _⟩

/-! ## Live requests -/

/-- No two requests that would still be answered share a nonce. -/
def NonceServesOne (store : CorrelationStore) (nowUnix : Int) : Prop :=
  ∀ first second entry other, (store.takeForResponse first nowUnix).1 = .ok entry →
    (store.takeForResponse second nowUnix).1 = .ok other → entry.nonce = other.nonce →
      first = second

/-- There is one entry for each id, and the nonce of a request before its deadline is kept
until then. -/
structure Sound (store : CorrelationStore) (nowUnix : Int) : Prop where
  distinct : store.pending.Pairwise fun earlier later => earlier.1 ≠ later.1
  windowed : ∀ entry ∈ store.pending, nowUnix < entry.2.deadlineUnix →
    ∃ retained, Assoc.find? entry.2.nonce store.nonceWindow = some retained ∧
      entry.2.deadlineUnix ≤ retained

theorem sound_new : Sound new nowUnix :=
  ⟨List.Pairwise.nil, nofun⟩

section

variable {store : CorrelationStore} {nowUnix : Int}

theorem Sound.later {later : Int} (sound : Sound store nowUnix) (forward : nowUnix ≤ later) :
    Sound store later :=
  ⟨sound.distinct, fun entry member early => sound.windowed entry member (forward.trans_lt early)⟩

theorem distinct_step (event : StoreEvent)
    (distinct : store.pending.Pairwise fun earlier later => earlier.1 ≠ later.1) :
    (machine.step store event).2.pending.Pairwise fun earlier later => earlier.1 ≠ later.1 := by
  rcases store.step_cases event with ⟨_, _, absent, _, next⟩ | ⟨_, shrinks⟩
  · rw [next]
    apply pairwise_cons.mpr
    exact ⟨fun entry member => (find?_eq_none_iff.mp absent entry member).symm, distinct⟩
  · exact distinct.sublist shrinks.pending

/-- A request whose nonce is free is not before the deadline of an entry with that nonce. -/
theorem Sound.deadline_le {nonce : String} (sound : Sound store nowUnix)
    (free : ∀ retained, find? nonce store.nonceWindow = some retained →
      retained ≤ nowUnix)
    {entry : String × PendingRequest} (member : entry ∈ store.pending)
    (same : entry.2.nonce = nonce) : entry.2.deadlineUnix ≤ nowUnix := by
  by_contra early
  obtain ⟨retained, found, covers⟩ := sound.windowed entry member (not_le.mp early)
  rw [same] at found
  exact early (covers.trans (free retained found))

theorem Sound.step {event : StoreEvent} (sound : Sound store event.nowUnix) :
    Sound (machine.step store event).2 event.nowUnix := by
  refine ⟨distinct_step event sound.distinct, ?_⟩
  intro entry member early
  rcases store.step_cases event with ⟨request, _, _, free, next⟩ | ⟨_, shrinks⟩
  · rw [next] at member ⊢
    rcases mem_cons.mp member with rfl | inside
    · exact ⟨_, find?_cons_self .., le_rfl⟩
    · obtain ⟨retained, found, covers⟩ := sound.windowed entry inside early
      have different : request.nonce ≠ entry.2.nonce := fun same =>
        absurd (sound.deadline_le free inside same.symm) (not_le.mpr early)
      refine ⟨retained, ?_, covers⟩
      rw [entered, find?_cons_ne different, find?_erase_ne different.symm]
      exact found
  · rcases sound.windowed entry (shrinks.pending.mem member) early with
      ⟨retained, found, covers⟩
    exact ⟨retained, shrinks.window _ _ found (early.trans_le covers).le, covers⟩

theorem takeForResponse_ok_iff_mem (sound : Sound store nowUnix) {correlationId : String}
    {entry : PendingRequest} :
    (store.takeForResponse correlationId nowUnix).1 = .ok entry ↔
      (correlationId, entry) ∈ store.pending ∧ nowUnix ≤ entry.deadlineUnix := by
  rw [takeForResponse_eq_ok]
  exact and_congr ⟨mem_of_find?, find?_of_mem sound.distinct⟩ Iff.rfl

theorem nonceServesOne_iff (sound : Sound store nowUnix) :
    NonceServesOne store nowUnix ↔ ∀ entry ∈ store.pending, ∀ other ∈ store.pending,
      nowUnix ≤ entry.2.deadlineUnix → nowUnix ≤ other.2.deadlineUnix →
        entry.2.nonce = other.2.nonce → entry.1 = other.1 := by
  simp only [NonceServesOne, takeForResponse_ok_iff_mem sound]
  grind

theorem NonceServesOne.later {later : Int} (one : NonceServesOne store nowUnix)
    (forward : nowUnix ≤ later) : NonceServesOne store later := by
  intro first second entry other takesFirst takesSecond same
  rw [takeForResponse_eq_ok] at takesFirst takesSecond
  exact one first second entry other
    (takeForResponse_eq_ok.mpr ⟨takesFirst.1, forward.trans takesFirst.2⟩)
    (takeForResponse_eq_ok.mpr ⟨takesSecond.1, forward.trans takesSecond.2⟩) same

/-- A request that is not late is entered at the very deadline of an outstanding one with
its nonce. -/
def reusesAtDeadline (store : CorrelationStore) (event : StoreEvent) : Bool :=
  (machine.step store event).1.entered?.any fun request =>
    event.nowUnix ≤ request.deadlineUnix && store.pending.any fun entry =>
      entry.2.nonce = request.nonce && entry.2.deadlineUnix = event.nowUnix

/-- The one step after which two live requests share a nonce. -/
theorem nonceServesOne_step_iff {event : StoreEvent} (sound : Sound store event.nowUnix)
    (one : NonceServesOne store event.nowUnix) :
    NonceServesOne (machine.step store event).2 event.nowUnix ↔
      store.reusesAtDeadline event = false := by
  rw [nonceServesOne_iff sound] at one
  rw [nonceServesOne_iff sound.step, reusesAtDeadline]
  rcases store.step_cases event with ⟨request, enters, absent, free, next⟩ | ⟨enters, shrinks⟩
  · rw [enters, next, any_some]
    have others := find?_eq_none_iff.mp absent
    constructor
    · intro one
      by_contra reused
      simp only [Bool.not_eq_false, Bool.and_eq_true, decide_eq_true_eq, List.any_eq_true]
        at reused
      obtain ⟨inTime, entry, member, same, due⟩ := reused
      exact others entry member (one entry (mem_cons_of_mem _ member) _
        mem_cons_self due.ge inTime same)
    · intro notReused
      simp only [Bool.and_eq_false_iff, decide_eq_false_iff_not, List.any_eq_false,
        Bool.and_eq_true, decide_eq_true_eq, not_and] at notReused
      have apart : ∀ entry ∈ store.pending, event.nowUnix ≤ entry.2.deadlineUnix →
          event.nowUnix ≤ request.deadlineUnix → entry.2.nonce ≠ request.nonce := by
        intro entry member live inTime same
        have due := le_antisymm (sound.deadline_le free member same) live
        rcases notReused with late | none
        · exact late inTime
        · exact none entry member same due
      intro entry member other otherMember live otherLive same
      rcases mem_cons.mp member with rfl | inside
      · rcases mem_cons.mp otherMember with rfl | otherInside
        · rfl
        · exact absurd same.symm (apart other otherInside otherLive live)
      · rcases mem_cons.mp otherMember with rfl | otherInside
        · exact absurd same (apart entry inside live otherLive)
        · exact one entry inside other otherInside live otherLive same
  · rw [enters]
    refine iff_of_true ?_ rfl
    intro entry member other otherMember
    exact one entry (shrinks.pending.mem member) other (shrinks.pending.mem otherMember)

/-- Two live requests never share a nonce exactly if no step reuses one at a deadline. -/
theorem allowed_nonceServesOne_iff {events : List StoreEvent}
    (ordered : events.Pairwise fun earlier later => earlier.nowUnix ≤ later.nowUnix)
    (sound : Sound store nowUnix) (one : NonceServesOne store nowUnix)
    (later : ∀ event ∈ events, nowUnix ≤ event.nowUnix) :
    machine.Allowed (fun store event =>
        NonceServesOne (machine.step store event).2 event.nowUnix) store events ↔
      machine.Allowed (fun store event => store.reusesAtDeadline event = false) store events := by
  induction events generalizing store nowUnix with
  | nil => exact Iff.rfl
  | cons event rest ih =>
    obtain ⟨first, ordered⟩ := pairwise_cons.mp ordered
    have forward := later event mem_cons_self
    have soundNow := sound.later forward
    rw [Machine.Allowed, nonceServesOne_step_iff soundNow (one.later forward)]
    apply and_congr_right
    intro notReused
    exact ih ordered soundNow.step
      ((nonceServesOne_step_iff soundNow (one.later forward)).mpr notReused) first

end

/-! ## Entries given back -/

section

variable {store : CorrelationStore} {event : StoreEvent} {correlationId : String}
  {entry : PendingRequest}

theorem returned_step
    (returned : (machine.step store event).1.returned? correlationId = some entry) :
    find? correlationId store.pending = some entry ∧
      find? correlationId (machine.step store event).2.pending = none := by
  obtain ⟨nowUnix, call⟩ := event
  cases call with
  | register _ | sweepExpired => cases returned
  | takeForResponse requested =>
    have rest := congrArg pending (store.takeForResponse_snd requested nowUnix)
    rcases taken : store.takeForResponse requested nowUnix with ⟨result, _⟩
    rw [taken] at rest
    simp only [machine, taken] at returned ⊢
    cases result with
    | error error => cases returned
    | ok held =>
      simp only [StoreAnswer.returned?, ite_none_right_eq_some] at returned
      obtain ⟨rfl, same⟩ := returned
      cases same
      have found := (takeForResponse_eq_ok.mp (congrArg Prod.fst taken)).1
      exact ⟨found, by rw [rest]; exact find?_erase_self _ _⟩
  | cancel requested =>
    simp only [machine, StoreAnswer.returned?, ite_none_right_eq_some]
      at returned
    obtain ⟨rfl, found⟩ := returned
    exact ⟨found, find?_erase_self _ _⟩

theorem find?_step (distinct : store.pending.Pairwise fun earlier later => earlier.1 ≠ later.1)
    (other : ∀ request, (machine.step store event).1.entered? = some request →
      request.correlationId ≠ correlationId)
    (found : find? correlationId (machine.step store event).2.pending = some entry) :
    find? correlationId store.pending = some entry := by
  rcases store.step_cases event with ⟨request, enters, _, _, next⟩ | ⟨_, shrinks⟩
  · rw [next, entered, find?_cons_ne (other request enters)] at found
    exact found
  · exact find?_of_mem distinct (shrinks.pending.mem (mem_of_find? found))

/-- The answers up to the next time a request is entered under an id. -/
def untilEntered (correlationId : String) (answers : List StoreAnswer) : List StoreAnswer :=
  answers.takeWhile fun answer =>
    !answer.entered?.any fun request => request.correlationId = correlationId

/-- Until an id is entered anew, what is outstanding under it is given back at most once, and
nothing else is. -/
theorem returned_untilEntered (events : List StoreEvent)
    (distinct : store.pending.Pairwise fun earlier later => earlier.1 ≠ later.1) :
    (untilEntered correlationId (machine.answers store events)).countP
        (fun answer => (answer.returned? correlationId).isSome) ≤
        (find? correlationId store.pending).isSome.toNat ∧
      ∀ answer ∈ untilEntered correlationId (machine.answers store events), ∀ entry,
        answer.returned? correlationId = some entry →
          find? correlationId store.pending = some entry := by
  induction events generalizing store with
  | nil => simp [untilEntered, Machine.answers]
  | cons event rest ih =>
    obtain ⟨count, entries⟩ := ih (distinct_step event distinct)
    rw [Machine.answers, untilEntered, takeWhile_cons]
    split
    next continues =>
      have other : ∀ request, (machine.step store event).1.entered? = some request →
          request.correlationId ≠ correlationId := by
        intro request enters same
        simp [enters, same] at continues
      cases returned : (machine.step store event).1.returned? correlationId with
      | none =>
        constructor
        · rw [countP_cons_of_neg (by simp [returned])]
          refine count.trans ?_
          cases found : find? correlationId
            (machine.step store event).2.pending with
          | none => exact Nat.zero_le _
          | some entry => rw [find?_step distinct other found]
        · intro answer member entry gives
          rcases mem_cons.mp member with rfl | inRest
          · rw [returned] at gives
            cases gives
          · exact find?_step distinct other (entries answer inRest entry gives)
      | some held =>
        obtain ⟨found, gone⟩ := returned_step returned
        rw [gone] at count entries
        constructor
        · rw [countP_cons_of_pos (by simp [returned]), found]
          exact Nat.succ_le_succ count
        · intro answer member entry gives
          rcases mem_cons.mp member with rfl | inRest
          · rw [← gives, returned]
            exact found
          · cases entries answer inRest entry gives
    next => simp

/-- Every request that is registered is given back at most once before its id is registered
again, and until then nothing else is given back under its id. -/
def ReturnsEachOnce (events : List StoreEvent) : Prop :=
  ∀ before event after request, events = before ++ event :: after →
    (machine.step (machine.after new before) event).1.entered? = some request →
      let own := untilEntered request.correlationId
        (machine.answers (machine.step (machine.after new before) event).2 after)
      own.countP (fun answer => (answer.returned? request.correlationId).isSome) ≤ 1 ∧
        ∀ answer ∈ own, ∀ entry,
          answer.returned? request.correlationId = some entry → entry = request

variable (events : List StoreEvent)

theorem distinct_after
    (distinct : store.pending.Pairwise fun earlier later => earlier.1 ≠ later.1) :
    (machine.after store events).pending.Pairwise fun earlier later => earlier.1 ≠ later.1 := by
  induction events generalizing store with
  | nil => exact distinct
  | cons event rest ih => exact ih (distinct_step event distinct)

theorem returnsEachOnce : ReturnsEachOnce events := by
  intro before event after request _ enters own
  have distinct := distinct_step event (distinct_after before (sound_new 0).distinct)
  have found : find? request.correlationId
      (machine.step (machine.after new before) event).2.pending = some request := by
    rcases (machine.after new before).step_cases event with
      ⟨_, same, _, _, next⟩ | ⟨none, _⟩
    · rw [enters, some.injEq] at same
      rw [next, same]
      exact find?_cons_self _ _ _
    · rw [enters] at none
      cases none
  obtain ⟨count, entries⟩ := @returned_untilEntered _ request.correlationId after distinct
  rw [found] at count entries
  exact ⟨count, fun answer member entry gives =>
    (some.inj (entries answer member entry gives)).symm⟩

end

/-- At no time of a run do two live requests share a nonce, and every entry is given back at
most once, exactly if no request that is not late is registered at the very deadline of an
outstanding one with the same nonce. -/
theorem nonce_serves_one_iff (events : List StoreEvent)
    (ordered : events.Pairwise fun earlier later => earlier.nowUnix ≤ later.nowUnix) :
    machine.Allowed (fun store event =>
          NonceServesOne (machine.step store event).2 event.nowUnix) new events ∧
        ReturnsEachOnce events ↔
      machine.Allowed (fun store event => store.reusesAtDeadline event = false) new events := by
  have served := fun nowUnix later => @allowed_nonceServesOne_iff new nowUnix events ordered
    (sound_new nowUnix) (fun _ _ _ _ => nofun) later
  rw [and_iff_left (returnsEachOnce events)]
  cases events with
  | nil => exact Iff.rfl
  | cons event rest =>
    apply served event.nowUnix
    intro later member
    rcases List.mem_cons.mp member with rfl | inRest
    · exact le_rfl
    · exact (List.pairwise_cons.mp ordered).1 later inRest

/-- A request under one nonce. -/
def nonceRequest (correlationId : String) (issuedAtUnix deadlineUnix : Int) : PendingRequest where
  correlationId
  requestHash := "sha256:Nvf-uMW1AEKxqJu3x2BMUTajFQETV-GlQRaRBHwECxA"
  nonce := "Zm9vYmFyYmF6cXV4MTIzNDU2Nzg5MA"
  issuedAtUnix
  deadlineUnix
  routeId := "tools"
  audience := "did:example:server-1"
  expectedServerSigners := ["did:example:server-1"]
  version := "draft-02"
  canonicalizationId := "mcps-jcs-int53-json-v1"
  authzDigest := "RBNvo1WzZ4oRRq0W9-hknpT7T8If536DEMBg9hyq_4o"

/-- A nonce that is used again one second after the deadline of its first request. -/
def spacedEvents : List StoreEvent :=
  [⟨1000, .register (nonceRequest "c1" 1000 2000)⟩, ⟨1500, .takeForResponse "c1"⟩,
    ⟨2001, .register (nonceRequest "c2" 2001 3000)⟩, ⟨2500, .cancel "c2"⟩]

theorem nonce_serves_one_spaced :
    machine.Allowed (fun store event =>
        NonceServesOne (machine.step store event).2 event.nowUnix) new spacedEvents ∧
      ReturnsEachOnce spacedEvents := by
  apply (nonce_serves_one_iff spacedEvents (by decide)).mpr
  decide

/-- A nonce that is used again at the deadline of its first request. -/
def adjoiningEvents : List StoreEvent :=
  [⟨1000, .register (nonceRequest "c1" 1000 2000)⟩, ⟨2000, .register (nonceRequest "c2" 2000 3000)⟩]

/-- Two requests with one nonce, and a response to either is still taken. -/
theorem nonce_serves_two_adjoining :
    adjoiningEvents.Pairwise (fun earlier later => earlier.nowUnix ≤ later.nowUnix) ∧
      ((machine.after new adjoiningEvents).takeForResponse "c1" 2000).1 =
        .ok (nonceRequest "c1" 1000 2000) ∧
      ((machine.after new adjoiningEvents).takeForResponse "c2" 2000).1 =
        .ok (nonceRequest "c2" 2000 3000) ∧
      (nonceRequest "c1" 1000 2000).nonce = (nonceRequest "c2" 2000 3000).nonce := by
  decide


end Mcps.ClientCore.CorrelationStore
