import Mcps.Lib.Program
import Mcps.Lib.Transition

/-!
# Pre- and postconditions with a crash condition

The surroundings of a program are a step relation: a request with its reply moves them
from one state to the next.  `Program.Triple` says that a program started in a state with
the precondition leaves a state with the postcondition if it ends, and one with the crash
condition wherever it is cut off.

A program made of requests is proved by `Triple.request_bind`, one request at a time, and
a program made of programs by `Triple.bind`.
-/

namespace Program

variable {σ κ α β : Type} {reply : κ → Type}

/-- From the precondition the program reaches the postcondition with its value, and the
crash condition with whatever it has exchanged. -/
def Triple (step : σ → Sigma reply → σ → Prop) (crash before : σ → Prop)
    (program : Program reply α) (after : α → σ → Prop) : Prop :=
  ∀ ⦃state exchanges last⦄, before state → Leads step state exchanges last →
    (program.Follows exchanges → crash last) ∧
      ∀ value, program.Runs exchanges value → after value last

namespace Triple

variable {step : σ → Sigma reply → σ → Prop} {crash before : σ → Prop}

theorem pure {value : α} {after : α → σ → Prop} (crashed : ∀ state, before state → crash state)
    (returned : ∀ state, before state → after value state) :
    Triple step crash before (Pure.pure value : Program reply α) after := by
  intro state exchanges last initial leads
  constructor
  · rintro rfl
    cases leads
    exact crashed state initial
  · rintro _ ⟨rfl, rfl⟩
    cases leads
    exact returned state initial

theorem of_before {program : Program reply α} {after : α → σ → Prop} (weaker : σ → Prop)
    (implied : ∀ state, before state → weaker state)
    (triple : (∃ state, before state) → Triple step crash weaker program after) :
    Triple step crash before program after := by
  intro state exchanges last initial
  exact triple ⟨state, initial⟩ (implied state initial)

theorem bind {program : Program reply α} {next : α → Program reply β} {after : β → σ → Prop}
    (middle : α → σ → Prop)
    (first : Triple step crash before program middle)
    (second : ∀ value, Triple step crash (middle value) (next value) after) :
    Triple step crash before (program >>= next) after := by
  intro state exchanges last initial leads
  constructor
  · intro follows
    rcases follows_bind.mp follows with follows | ⟨value, made, later, rfl, runs, follows⟩
    · exact (first initial leads).1 follows
    · obtain ⟨between, earlier, leads⟩ := leads.of_append
      exact (second value ((first initial earlier).2 value runs) leads).1 follows
  · intro result runs
    obtain ⟨value, made, later, rfl, ended, runs⟩ := runs_bind.mp runs
    obtain ⟨between, earlier, leads⟩ := leads.of_append
    exact (second value ((first initial earlier).2 value ended) leads).2 result runs

theorem request {asked : κ} {after : reply asked → σ → Prop}
    (crashed : ∀ state, before state → crash state)
    (answered : ∀ state answer next, before state → step state ⟨asked, answer⟩ next →
      crash next ∧ after answer next) :
    Triple step crash before (Program.request asked) after := by
  intro state exchanges last initial leads
  constructor
  · rintro (rfl | ⟨answer, _, rfl, rfl⟩)
    · cases leads
      exact crashed state initial
    · obtain ⟨next, stepped, rfl⟩ := leads
      exact (answered state answer next initial stepped).1
  · rintro _ ⟨answer, _, rfl, rfl, rfl⟩
    obtain ⟨next, stepped, rfl⟩ := leads
    exact (answered state answer next initial stepped).2

theorem request_bind {asked : κ} {next : reply asked → Program reply β}
    {after : β → σ → Prop} (middle : reply asked → σ → Prop)
    (crashed : ∀ state, before state → crash state)
    (answered : ∀ state answer next, before state → step state ⟨asked, answer⟩ next →
      crash next ∧ middle answer next)
    (rest : ∀ answer, Triple step crash (middle answer) (next answer) after) :
    Triple step crash before (Program.request asked >>= next) after :=
  bind middle (request crashed answered) rest

end Triple

end Program
