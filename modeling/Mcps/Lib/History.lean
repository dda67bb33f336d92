import Mcps.Lib.Transition

/-!
# Histories

The history of a machine is the list of its answers so far.  `Since` is the past-time
operator on histories: something happened, and nothing that came later undid it.

A property of every answer of a run against its history follows from one invariant between
the history and the state: it holds at first, every allowed event keeps it, and in every
state it makes the next answer right.
-/

section

variable {ε : Type} {start stays : ε → Prop} {history : List ε} {event : ε}

/-- An event of the first kind happened, and every later one is of the second kind. -/
def Since (start stays : ε → Prop) (history : List ε) : Prop :=
  ∃ before event after, history = before ++ event :: after ∧ start event ∧
    ∀ later ∈ after, stays later

theorem since_concat (happens : start event) : Since start stays (history ++ [event]) :=
  ⟨history, event, [], rfl, happens, nofun⟩

theorem Since.concat (since : Since start stays history) (keeps : stays event) :
    Since start stays (history ++ [event]) := by
  obtain ⟨before, first, after, rfl, happened, kept⟩ := since
  refine ⟨before, first, after ++ [event], by simp, happened, ?_⟩
  intro later member
  rcases List.mem_append.mp member with inside | last
  · exact kept later inside
  · rw [List.mem_singleton.mp last]
    exact keeps

theorem Since.imp {start' stays' : ε → Prop} (since : Since start stays history)
    (starts : ∀ event, start event → start' event) (keeps : ∀ event, stays event → stays' event) :
    Since start' stays' history := by
  obtain ⟨before, event, after, split, happened, kept⟩ := since
  exact ⟨before, event, after, split, starts event happened,
    fun later member => keeps later (kept later member)⟩

/-- What happened since an event that ends every earlier `Since` is in the part after it. -/
theorem Since.of_append {before after : List ε} {mark : ε}
    (since : Since start stays (before ++ mark :: after)) (ends : ¬ stays mark)
    (notStart : ¬ start mark) : ∃ event ∈ after, start event := by
  obtain ⟨_, event, rest, split, happened, kept⟩ := since
  rcases List.append_eq_append_iff.mp split with ⟨between, same, others⟩ | ⟨between, same, others⟩
  · cases between with
    | nil =>
      cases (List.cons_eq_cons.mp others).1
      exact absurd happened notStart
    | cons head tail =>
      rw [(List.cons_eq_cons.mp others).2]
      exact ⟨event, by simp, happened⟩
  · cases between with
    | nil =>
      cases (List.cons_eq_cons.mp others).1
      exact absurd happened notStart
    | cons head tail =>
      have member : mark ∈ rest := by
        rw [(List.cons_eq_cons.mp others).2]
        simp
      exact absurd (kept mark member) ends

end

namespace Machine

open List

variable {σ ε ο : Type} {machine : Machine σ ε ο} {guard : σ → ε → Prop}

theorem after_append (state : σ) (first second : List ε) :
    machine.after state (first ++ second) =
      machine.after (machine.after state first) second := by
  induction first generalizing state with
  | nil => rfl
  | cons event rest ih => simp [after, ih]

/-- A property of an answer and what came before it holds of every answer of a run. -/
theorem forall_answers {invariant : List ο → σ → Prop} {property : List ο → ο → Prop}
    (kept : ∀ past state event, invariant past state → guard state event →
      invariant (past ++ [(machine.step state event).1]) (machine.step state event).2)
    (holds : ∀ past state event, invariant past state → guard state event →
      property past (machine.step state event).1)
    {past : List ο} {state : σ} {events : List ε} (initial : invariant past state)
    (allowed : machine.Allowed guard state events) {before after : List ο} {answer : ο}
    (happened : machine.answers state events = before ++ answer :: after) :
    property (past ++ before) answer := by
  induction events generalizing past state before with
  | nil => simp [answers] at happened
  | cons event rest ih =>
    cases before with
    | nil =>
      have same : (machine.step state event).1 = answer := head_eq_of_cons_eq happened
      rw [← same, append_nil]
      exact holds past state event initial allowed.1
    | cons first others =>
      have same : (machine.step state event).1 = first := head_eq_of_cons_eq happened
      have later := ih (kept past state event initial allowed.1) allowed.2
        (tail_eq_of_cons_eq happened)
      rw [same] at later
      simpa using later

end Machine
