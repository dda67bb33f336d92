import Mathlib.Tactic

/-!
# Actions on the entries of a state

A state is seen through a view as a family of entries.  An action on one entry leaves the
others alone and only looks at its own.  So a sequence of actions leads to the same state in
every order that keeps the order of the actions on each entry.
-/

namespace KeyedActions

variable {σ υ ι : Type} {α : Type*} {view : σ → ι → α}

/-- The change is one of the entry under the key. -/
structure OnEntry (view : σ → ι → α) (key : ι) (change : σ → σ) : Prop where
  others : ∀ state index, index ≠ key → view (change state) index = view state index
  own : ∀ state other, view state key = view other key →
    view (change state) key = view (change other) key

theorem onEntry_id (key : ι) : OnEntry view key id :=
  ⟨fun _ _ _ => rfl, fun _ _ same => same⟩

variable [DecidableEq ι] {key : υ → ι} {act : σ → υ → σ}

theorem view_foldl (acts : ∀ unit, OnEntry view (key unit) (act · unit)) (units : List υ)
    {index : ι} {state other : σ} (same : view state index = view other index) :
    view (units.foldl act state) index =
      view ((units.filter (key · = index)).foldl act other) index := by
  induction units generalizing state other with
  | nil => exact same
  | cons unit rest ih =>
    by_cases own : key unit = index
    · rw [List.filter_cons_of_pos (by simpa using own)]
      apply ih
      subst own
      exact (acts unit).own state other same
    · rw [List.filter_cons_of_neg (by simpa using own)]
      apply ih
      rw [(acts unit).others state index (Ne.symm own)]
      exact same

theorem foldl_eq_of_filter_eq (injective : Function.Injective view)
    (acts : ∀ unit, OnEntry view (key unit) (act · unit)) {units reordered : List υ}
    (order : ∀ index, units.filter (key · = index) = reordered.filter (key · = index))
    (state : σ) : units.foldl act state = reordered.foldl act state := by
  apply injective
  funext index
  rw [view_foldl acts units rfl, view_foldl acts reordered rfl, order index]

end KeyedActions
