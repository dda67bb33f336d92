import Mathlib.Tactic

/-!
# Runs of a deterministic machine

A machine answers each event and moves to a next state.  A run is the list of its
answers to a list of events; `Allowed` says that every event met a guard in the state
it arrived in.

`pairwise_answers` is the rule for properties of any two answers of one run, such as
at-most-once acceptance: an answer bars what conflicts with it from then on, the bar
is kept by every allowed event, and a barred answer is never given.

A system whose next state is not determined is a step relation; `Admits` says that a
list of events can happen one after the other, and `Admits.pairwise` is the same rule for
the events themselves.
-/

/-- A deterministic machine: one event gives an answer and the next state. -/
structure Machine (σ ε ο : Type) where
  step : σ → ε → ο × σ

namespace Machine

open List

variable {σ ε ο : Type} (machine : Machine σ ε ο)

/-- The answers to a list of events. -/
def answers : σ → List ε → List ο
  | _, [] => []
  | state, event :: rest => (machine.step state event).1 :: answers (machine.step state event).2 rest

/-- The state after a list of events. -/
def after : σ → List ε → σ
  | state, [] => state
  | state, event :: rest => after (machine.step state event).2 rest

/-- Every event of the list meets the guard in the state it arrives in. -/
def Allowed (guard : σ → ε → Prop) : σ → List ε → Prop
  | _, [] => True
  | state, event :: rest => guard state event ∧ Allowed guard (machine.step state event).2 rest

instance decidableAllowed (guard : σ → ε → Prop)
    [∀ state event, Decidable (guard state event)] :
    (state : σ) → (events : List ε) → Decidable (machine.Allowed guard state events)
  | _, [] => isTrue trivial
  | state, event :: rest =>
    have := decidableAllowed guard (machine.step state event).2 rest
    inferInstanceAs (Decidable (guard state event ∧
      machine.Allowed guard (machine.step state event).2 rest))

variable {machine} {guard : σ → ε → Prop} {conflict : ο → ο → Prop}

/-- What holds of every answer in a state that satisfies an invariant holds of every answer
of an allowed run. -/
theorem forall_mem_answers {invariant : σ → Prop} {property : ο → Prop}
    (kept : ∀ state event, invariant state → guard state event →
      invariant (machine.step state event).2)
    (holds : ∀ state event, invariant state → guard state event →
      property (machine.step state event).1)
    {state : σ} {events : List ε} (initial : invariant state)
    (allowed : machine.Allowed guard state events) :
    ∀ answer ∈ machine.answers state events, property answer := by
  induction events generalizing state with
  | nil => simp [answers]
  | cons event rest ih =>
    intro answer member
    rcases mem_cons.mp member with rfl | inRest
    · exact holds state event initial allowed.1
    · exact ih (kept state event initial allowed.1) allowed.2 answer inRest

theorem allowed_of_forall (every : ∀ state event, guard state event) (state : σ)
    (events : List ε) : machine.Allowed guard state events := by
  induction events generalizing state with
  | nil => trivial
  | cons event rest ih => exact ⟨every state event, ih _⟩

theorem allowed_true (state : σ) (events : List ε) :
    machine.Allowed (fun _ _ => True) state events :=
  allowed_of_forall (fun _ _ => trivial) state events

variable {state : σ} {events : List ε}

/-- Guards that agree in every state of an invariant allow the same runs. -/
theorem allowed_congr {other : σ → ε → Prop} {invariant : σ → Prop}
    (kept : ∀ state event, invariant state → invariant (machine.step state event).2)
    (agree : ∀ state event, invariant state → (guard state event ↔ other state event))
    (initial : invariant state) :
    machine.Allowed guard state events ↔ machine.Allowed other state events := by
  induction events generalizing state with
  | nil => exact Iff.rfl
  | cons event rest ih =>
    exact and_congr (agree state event initial) (ih (kept state event initial))

/-- No two answers of an allowed run conflict when each answer bars its conflicts. -/
theorem pairwise_answers (invariant : σ → Prop) (barred : ο → σ → Prop)
    (preserved : ∀ state event, invariant state → guard state event →
      invariant (machine.step state event).2)
    (barring : ∀ state event, invariant state → guard state event →
      barred (machine.step state event).1 (machine.step state event).2)
    (kept : ∀ answer state event, barred answer state → guard state event →
      barred answer (machine.step state event).2)
    (refused : ∀ answer state event, barred answer state → guard state event →
      ¬ conflict answer (machine.step state event).1) (initial : invariant state)
    (allowed : machine.Allowed guard state events) :
    (machine.answers state events).Pairwise fun earlier later => ¬ conflict earlier later := by
  induction events generalizing state with
  | nil => exact List.Pairwise.nil
  | cons event rest ih =>
    apply pairwise_cons.mpr
    constructor
    · exact forall_mem_answers (kept _) (refused _) (barring state event initial allowed.1)
        allowed.2
    · exact ih (preserved state event initial allowed.1) allowed.2

theorem sum_cost_le (machine : Machine σ ε ο) (cost credit : ο → Nat) (potential : σ → Nat)
    (covered : ∀ state event, cost (machine.step state event).1 +
      potential (machine.step state event).2 ≤
        potential state + credit (machine.step state event).1)
    (state : σ) (events : List ε) :
    ((machine.answers state events).map cost).sum ≤
      potential state + ((machine.answers state events).map credit).sum := by
  induction events generalizing state with
  | nil => exact Nat.zero_le _
  | cons event rest ih =>
    have step := covered state event
    have run := ih (machine.step state event).2
    simp only [answers, map_cons, sum_cons]
    omega

theorem Allowed.and_of_forall {property : ε → Prop} (allowed : machine.Allowed guard state events)
    (every : ∀ event ∈ events, property event) :
    machine.Allowed (fun state event => guard state event ∧ property event) state events := by
  induction events generalizing state with
  | nil => trivial
  | cons event rest ih =>
    obtain ⟨first, others⟩ := forall_mem_cons.mp every
    exact ⟨⟨allowed.1, first⟩, ih allowed.2 others⟩

/-- Two machines whose related states answer every allowed event alike and stay related
give the same answers. -/
theorem answers_eq_of_related {τ : Type} {other : Machine τ ε ο} (related : σ → τ → Prop)
    (simulates : ∀ state partner event, related state partner → guard state event →
      (machine.step state event).1 = (other.step partner event).1 ∧
        related (machine.step state event).2 (other.step partner event).2) {partner : τ}
    (initial : related state partner) (allowed : machine.Allowed guard state events) :
    machine.answers state events = other.answers partner events := by
  induction events generalizing state partner with
  | nil => rfl
  | cons event rest ih =>
    obtain ⟨same, next⟩ := simulates state partner event initial allowed.1
    rw [answers, answers, same, ih next allowed.2]

end Machine

theorem Option.foldlM_invariant {σ ε : Type} {step : σ → ε → Option σ} {invariant : σ → Prop}
    (kept : ∀ state event next, invariant state → step state event = some next → invariant next)
    {state last : σ} {events : List ε} (initial : invariant state)
    (runs : events.foldlM step state = some last) : invariant last := by
  induction events generalizing state with
  | nil =>
    cases runs
    exact initial
  | cons event rest ih =>
    obtain ⟨next, stepped, runs⟩ := Option.bind_eq_some_iff.mp runs
    exact ih (kept state event next initial stepped) runs

/-! ## Runs of a relation -/

section

variable {σ ε : Type}

/-- The events can happen one after the other from the state. -/
def Admits (step : σ → ε → σ → Prop) : σ → List ε → Prop
  | _, [] => True
  | state, event :: rest => ∃ next, step state event next ∧ Admits step next rest

namespace Admits

variable {step : σ → ε → σ → Prop} {state : σ} {events : List ε}

theorem forall_step {invariant : σ → Prop} {permitted : ε → Prop}
    (kept : ∀ {state event next}, invariant state → permitted event → step state event next →
      invariant next)
    (initial : invariant state) (permits : ∀ event ∈ events, permitted event)
    (run : Admits step state events) :
    ∀ event ∈ events, ∃ before after, invariant before ∧ step before event after := by
  induction events generalizing state with
  | nil => nofun
  | cons first rest ih =>
    obtain ⟨next, stepped, run⟩ := run
    intro event member
    rcases List.mem_cons.mp member with rfl | inRest
    · exact ⟨state, next, initial, stepped⟩
    · apply ih (kept initial (permits first List.mem_cons_self) stepped) _ run event inRest
      exact fun event member => permits event (List.mem_cons_of_mem _ member)

theorem of_append {invariant : σ → Prop} {permitted : ε → Prop} {rest : List ε}
    (kept : ∀ {state event next}, invariant state → permitted event → step state event next →
      invariant next)
    (initial : invariant state) (permits : ∀ event ∈ events, permitted event)
    (run : Admits step state (events ++ rest)) :
    ∃ middle, invariant middle ∧ Admits step middle rest := by
  induction events generalizing state with
  | nil => exact ⟨state, initial, run⟩
  | cons first others ih =>
    obtain ⟨_, stepped, run⟩ := run
    apply ih (kept initial (permits first List.mem_cons_self) stepped) _ run
    exact fun event member => permits event (List.mem_cons_of_mem _ member)

/-- Any two events of a run are related when each event sets up a bar that every later
one keeps and has to pass. -/
theorem pairwise {invariant : σ → Prop} {permitted : ε → Prop} {barred : ε → σ → Prop}
    {guard related : ε → ε → Prop}
    (preserved : ∀ {state event next}, invariant state → permitted event →
      step state event next → invariant next)
    (barring : ∀ {state event next}, invariant state → permitted event →
      step state event next → barred event next)
    (kept : ∀ {earlier state event next}, barred earlier state → guard earlier event →
      step state event next → barred earlier next)
    (passed : ∀ {earlier state event next}, barred earlier state → guard earlier event →
      step state event next → related earlier event)
    (initial : invariant state) (permits : ∀ event ∈ events, permitted event)
    (guards : ∀ earlier ∈ events, ∀ event ∈ events, guard earlier event)
    (run : Admits step state events) : events.Pairwise related := by
  induction events generalizing state with
  | nil => exact List.Pairwise.nil
  | cons first rest ih =>
    obtain ⟨next, stepped, run⟩ := run
    have permitsFirst := permits first List.mem_cons_self
    apply List.pairwise_cons.mpr
    constructor
    · intro event member
      have guarded : ∀ event ∈ rest, guard first event := fun event member =>
        guards first List.mem_cons_self event (List.mem_cons_of_mem _ member)
      rcases @forall_step _ _ step next rest (barred first) (guard first) kept
        (barring initial permitsFirst stepped) guarded run event member with
        ⟨before, after, bar, happened⟩
      exact passed bar (guarded event member) happened
    · apply ih (preserved initial permitsFirst stepped) _ _ run
      · exact fun event member => permits event (List.mem_cons_of_mem _ member)
      · exact fun earlier first event second => guards earlier (List.mem_cons_of_mem _ first)
          event (List.mem_cons_of_mem _ second)

theorem pairwise_of_bar {barred : ε → σ → Prop} {related : ε → ε → Prop}
    (barring : ∀ {state event next}, step state event next → barred event next)
    (kept : ∀ {earlier state event next}, barred earlier state → step state event next →
      barred earlier next)
    (passed : ∀ {earlier state event next}, barred earlier state → step state event next →
      related earlier event)
    (run : Admits step state events) : events.Pairwise related := by
  refine @pairwise _ _ step state events (fun _ => True) (fun _ => True) barred
    (fun _ _ => True) related ?_ ?_ ?_ ?_ trivial ?_ ?_ run
  · exact fun _ _ _ => trivial
  · exact fun _ _ stepped => barring stepped
  · exact fun bar _ stepped => kept bar stepped
  · exact fun bar _ stepped => passed bar stepped
  · exact fun _ _ => trivial
  · exact fun _ _ _ _ => trivial

end Admits

/-- The events can happen one after the other from the state and lead to the last one. -/
def Leads (step : σ → ε → σ → Prop) : σ → List ε → σ → Prop
  | state, [], last => state = last
  | state, event :: rest, last => ∃ next, step state event next ∧ Leads step next rest last

theorem Leads.of_append {step : σ → ε → σ → Prop} {state last : σ} {events rest : List ε}
    (leads : Leads step state (events ++ rest) last) :
    ∃ middle, Leads step state events middle ∧ Leads step middle rest last := by
  induction events generalizing state with
  | nil => exact ⟨state, rfl, leads⟩
  | cons first others ih =>
    obtain ⟨next, stepped, leads⟩ := leads
    obtain ⟨middle, before, after⟩ := ih leads
    exact ⟨middle, ⟨next, stepped, before⟩, after⟩

theorem List.Pairwise.related_or {related : ε → ε → Prop} {events : List ε}
    (pairwise : events.Pairwise related) {first second : ε} (firstMember : first ∈ events)
    (secondMember : second ∈ events) (different : first ≠ second) :
    related first second ∨ related second first := by
  have symmetric : Std.Symm fun first second => related first second ∨ related second first :=
    ⟨fun _ _ => Or.symm⟩
  have either := pairwise.imp fun {first second} (holds : related first second) =>
    (.inl holds : related first second ∨ related second first)
  exact either.forall firstMember secondMember different

end
