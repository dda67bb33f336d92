import Mathlib.Tactic

/-!
# Inverting `Except` computations

`okOr` turns an absent value into an error.  A computation in `Except` that ends in `ok`
ran every one of its steps to `ok`.  These lemmas peel a `do` block apart from the left,
one step at a time.
-/

variable {ε α β : Type}

/-- The value that is there, or an error. -/
def Option.okOr (value : Option α) (e : ε) : Except ε α :=
  match value with
  | some value => .ok value
  | none => .error e

@[simp] theorem Option.okOr_some (value : α) (e : ε) : (some value).okOr e = .ok value := rfl

@[simp] theorem Option.okOr_none (e : ε) : (none : Option α).okOr e = .error e := rfl

variable {value : Option α}

theorem Option.okOr_eq_ok {e : ε} {result : α} :
    value.okOr e = .ok result ↔ value = some result := by
  cases value <;> simp

theorem Option.okOr_eq_error {e failure : ε} :
    value.okOr e = .error failure ↔ value = none ∧ e = failure := by
  cases value <;> simp

theorem Option.okOr_ne_error {e failure : ε} (different : e ≠ failure) :
    value.okOr e ≠ .error failure :=
  fun failed => different (okOr_eq_error.mp failed).2

theorem Option.mapM_eq_some {read : α → Option β} {items : List α} {values : List β} :
    items.mapM read = some values ↔
      List.Forall₂ (fun item value => read item = some value) items values := by
  induction items generalizing values with
  | nil => simp [eq_comm]
  | cons item items ih =>
    simp only [List.mapM_cons, bind_eq_bind, bind_eq_some_iff, pure_def,
      some.injEq, List.forall₂_cons_left_iff, ih]
    constructor
    · intro ⟨value, first, rest, others, made⟩
      exact ⟨value, rest, first, others, made.symm⟩
    · intro ⟨value, rest, first, others, made⟩
      exact ⟨value, first, rest, others, made.symm⟩

namespace Except

open Option

@[simp] theorem pure_eq_ok (value : α) : (pure value : Except ε α) = .ok value := rfl

@[simp] theorem throw_eq_error (e : ε) : (throw e : Except ε α) = .error e := rfl

@[simp] theorem bind_ok (value : α) (next : α → Except ε β) :
    (Except.ok value >>= next) = next value := rfl

@[simp] theorem bind_error (e : ε) (next : α → Except ε β) :
    ((Except.error e : Except ε α) >>= next) = .error e := rfl

variable {step : Except ε α} {next : α → Except ε β} {result : β}

theorem bind_eq_ok :
    (step >>= next) = .ok result ↔ ∃ value, step = .ok value ∧ next value = .ok result := by
  cases step <;> simp

variable {e : ε}

theorem bind_eq_error :
    (step >>= next) = .error e ↔
      step = .error e ∨ ∃ value, step = .ok value ∧ next value = .error e := by
  cases step <;> simp

theorem bind_ne_error (first : step ≠ .error e)
    (rest : ∀ value, step = .ok value → next value ≠ .error e) : (step >>= next) ≠ .error e := by
  intro failed
  rcases bind_eq_error.mp failed with failed | ⟨value, made, failed⟩
  · exact first failed
  · exact rest value made failed

/-- A computation with one possible error. -/
def FailsWith (e : ε) (step : Except ε α) : Prop := ∀ failure, step = .error failure → failure = e

theorem failsWith_ok (e : ε) (value : α) : (.ok value : Except ε α).FailsWith e := nofun

theorem failsWith_error (e : ε) : (.error e : Except ε α).FailsWith e := by
  rintro failure ⟨⟩
  rfl

theorem failsWith_okOr (value : Option α) (e : ε) : (value.okOr e).FailsWith e := by
  cases value with
  | none => exact failsWith_error e
  | some value => exact failsWith_ok e value

theorem FailsWith.bind (first : step.FailsWith e) (rest : ∀ value, (next value).FailsWith e) :
    (step >>= next).FailsWith e := by
  intro failure failed
  rcases bind_eq_error.mp failed with failed | ⟨value, _, failed⟩
  · exact first failure failed
  · exact rest value failure failed

variable {condition : Prop}

theorem FailsWith.ite [Decidable condition] {first second : Except ε α}
    (whenTrue : first.FailsWith e) (whenFalse : second.FailsWith e) :
    (if condition then first else second).FailsWith e := by
  split
  next => exact whenTrue
  next => exact whenFalse

theorem FailsWith.ne_error {other : ε} (fails : step.FailsWith e) (different : other ≠ e) :
    step ≠ .error other :=
  fun failed => different (fails other failed)

theorem guard_eq_ok [Decidable condition] {next : Except ε β} :
    (if condition then .error e else next) = .ok result ↔ ¬ condition ∧ next = .ok result := by
  by_cases holds : condition <;> simp [holds]

theorem toOption_eq_some {value : α} : step.toOption = some value ↔ step = .ok value := by
  cases step <;> simp [Except.toOption]

theorem map_eq_ok {image : α → β} :
    step.map image = .ok result ↔ ∃ value, step = .ok value ∧ image value = result := by
  cases step <;> simp [Except.map]

theorem mapError_eq_ok {δ : Type} {translate : ε → δ} {value : α} :
    step.mapError translate = .ok value ↔ step = .ok value := by
  cases step with
  | error _ | ok _ => simp [Except.mapError]

theorem mapError_eq_error {δ : Type} {translate : ε → δ} {e : δ} :
    step.mapError translate = .error e ↔ ∃ cause, step = .error cause ∧ translate cause = e := by
  cases step with
  | error _ | ok _ => simp [Except.mapError]

theorem guard_ne_error [Decidable condition] {failure : ε} {next : Except ε β}
    (different : e ≠ failure) (rest : next ≠ .error failure) :
    (if condition then .error e else next) ≠ .error failure := by
  split
  next => exact fun same => different (Except.error.inj same)
  next => exact rest

theorem mapError_const_ne_error {δ : Type} {e failure : δ} (different : e ≠ failure) :
    (step.mapError fun _ => e) ≠ .error failure := by
  intro failed
  obtain ⟨_, _, same⟩ := mapError_eq_error.mp failed
  exact different same

end Except
