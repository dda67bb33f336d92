import Mcps.Lib.Assoc

/-!
# Keys that expire

A store puts a key with a deadline unless the key is live, and forgets a key once its
clock is past the deadline.  `Holds` is what a put leaves behind: up to its deadline the
key is live, whatever else is put, as long as the clock does not go back.
-/

/-- A store's clock, and each key with the last time at which it is live. -/
structure Expiring (κ : Type) where
  now : Int
  deadlines : List (κ × Int)

namespace Expiring

variable {κ : Type} [DecidableEq κ] {store : Expiring κ} {key other : κ}
  {time deadline later : Int}

/-- The key has not expired at the time. -/
def Live (store : Expiring κ) (key : κ) (time : Int) : Prop :=
  ∃ deadline ∈ Assoc.find? key store.deadlines, time ≤ deadline

instance (store : Expiring κ) (key : κ) (time : Int) : Decidable (store.Live key time) :=
  inferInstanceAs (Decidable (∃ deadline ∈ Assoc.find? key store.deadlines, time ≤ deadline))

def advance (store : Expiring κ) (time : Int) : Expiring κ := { store with now := time }

/-- Put the key with a deadline unless it is live. -/
def putIfAbsent (store : Expiring κ) (key : κ) (deadline time : Int) : Expiring κ :=
  if store.Live key time then store.advance time
  else ⟨time, (key, deadline) :: store.deadlines⟩

@[simp] theorem now_putIfAbsent (store : Expiring κ) (key : κ) (deadline time : Int) :
    (store.putIfAbsent key deadline time).now = time := by
  rw [putIfAbsent]
  split <;> rfl

/-- The key is held up to the deadline, which may be over. -/
def Holds (store : Expiring κ) (key : κ) (deadline : Int) : Prop :=
  (∃ later, Assoc.find? key store.deadlines = some later ∧ deadline ≤ later) ∨
    deadline < store.now

theorem Holds.advance (holds : store.Holds key deadline) (forward : store.now ≤ time) :
    (store.advance time).Holds key deadline :=
  holds.imp_right fun past => past.trans_le forward

theorem Holds.putIfAbsent (holds : store.Holds key deadline) (forward : store.now ≤ time) :
    (store.putIfAbsent other later time).Holds key deadline := by
  rw [Expiring.putIfAbsent]
  split
  next => exact holds.advance forward
  next absent =>
    rcases holds with ⟨held, found, reaches⟩ | past
    · by_cases same : other = key
      · subst same
        right
        by_contra early
        exact absent ⟨held, found, (not_lt.mp early).trans reaches⟩
      · exact .inl ⟨held, (Assoc.find?_cons_ne same _ _).trans found, reaches⟩
    · exact .inr (past.trans_le forward)

theorem holds_putIfAbsent (absent : ¬ store.Live key time) :
    (store.putIfAbsent key deadline time).Holds key deadline := by
  rw [Expiring.putIfAbsent, if_neg absent]
  exact .inl ⟨deadline, Assoc.find?_cons_self _ _ _, le_rfl⟩

theorem Holds.lt_of_not_live (holds : store.Holds key deadline) (forward : store.now ≤ time)
    (absent : ¬ store.Live key time) : deadline < time := by
  rcases holds with ⟨held, found, reaches⟩ | past
  · by_contra early
    exact absent ⟨held, found, (not_lt.mp early).trans reaches⟩
  · exact past.trans_le forward

end Expiring
