import Mcps.Lib.Utf8
import Mathlib.Order.Defs.Unbundled

/-!
# Comparing sequences of code units

Lexicographic comparison of sequences of numbers, a proper prefix coming first, and
the order it gives to strings through their code points.  The comparison is a plain
recursion, so it can be evaluated.
-/

/-- Compare two sequences of code units. -/
def compareUnits : List Nat → List Nat → Ordering
  | x :: xs, y :: ys => if x < y then .lt else if y < x then .gt else compareUnits xs ys
  | _ :: _, [] => .gt
  | [], _ :: _ => .lt
  | [], [] => .eq

theorem compareUnits_eq_eq_iff {left right : List Nat} :
    compareUnits left right = .eq ↔ left = right := by
  fun_induction compareUnits left right with
  | case1 _ _ _ _ below => simp [below.ne]
  | case2 _ _ _ _ _ above => simp [above.ne']
  | case3 x _ y _ notBelow notAbove ih => simp [ih, show x = y by omega]
  | _ => simp

theorem compareUnits_eq_lt_iff {left right : List Nat} :
    compareUnits left right = .lt ↔ left < right := by
  fun_induction compareUnits left right with
  | case1 _ _ _ _ below => simp [List.cons_lt_cons_iff, below]
  | case2 _ _ _ _ notBelow above => simp [List.cons_lt_cons_iff, notBelow, above.ne']
  | case3 x _ y _ notBelow notAbove ih => simp [ih, show x = y by omega]
  | _ => simp

theorem compareUnits_swap (left right : List Nat) :
    compareUnits right left = (compareUnits left right).swap := by
  fun_induction compareUnits left right with
  | case1 _ _ _ _ below => simp [compareUnits, below, below.not_gt]
  | case2 _ _ _ _ _ above => simp [compareUnits, above]
  | case3 _ _ _ _ notBelow notAbove ih => simp [compareUnits, notBelow, notAbove, ih]
  | _ => rfl

theorem compareUnits_lt_trans {first second third : List Nat}
    (firstSecond : compareUnits first second = .lt)
    (secondThird : compareUnits second third = .lt) : compareUnits first third = .lt := by
  rw [compareUnits_eq_lt_iff] at firstSecond secondThird ⊢
  exact List.lt_trans firstSecond secondThird

/-- The order of strings by their code points, which is their UTF-8 byte order. -/
def codePointLt (left right : String) : Prop :=
  compareUnits ((textChars left).map Char.toNat) ((textChars right).map Char.toNat) = .lt

instance : DecidableRel codePointLt := fun _ _ =>
  inferInstanceAs (Decidable (compareUnits _ _ = .lt))

theorem codePoints_injective :
    Function.Injective fun text : String => (textChars text).map Char.toNat := by
  intro left right same
  simp only [textChars_eq] at same
  apply String.toList_injective
  exact List.map_injective_iff.mpr (fun _ _ => Char.toNat_inj.mp) same

instance : IsStrictTotalOrder String codePointLt where
  trichotomous left right notLeft notRight := by
    apply codePoints_injective
    apply compareUnits_eq_eq_iff.mp
    rw [codePointLt, compareUnits_swap] at notRight
    rw [codePointLt] at notLeft
    cases order : compareUnits ((textChars left).map Char.toNat)
        ((textChars right).map Char.toNat) with
    | lt => exact absurd order notLeft
    | eq => rfl
    | gt => exact absurd (congrArg Ordering.swap order) notRight
  irrefl text := by
    intro below
    rw [codePointLt, compareUnits_eq_eq_iff.mpr rfl] at below
    exact absurd below (by decide)
  trans _ _ _ := compareUnits_lt_trans
