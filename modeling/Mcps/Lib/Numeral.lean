import Mathlib.Data.Nat.Digits.Defs
import Mathlib.Tactic

/-!
# Decimal numerals

Reading an integer of limited size from decimal digits, with an optional sign in front.
What is written in decimal is read back unless it is too large.
-/

namespace Numeral

open List Option

/-- `str::parse` at an unsigned type with so many values. -/
def parseUnsigned (limit : Nat) (text : List Char) : Option Nat :=
  let digits := if text.head? = some '+' then text.tail else text
  if digits = [] || digits.any (!·.isDigit) then none
  else
    let value := Nat.ofDigitChars 10 digits 0
    if value < limit then some value else none

/-- `str::parse` at a signed type with these bounds. -/
def parseSigned (least most : Int) (text : List Char) : Option Int :=
  let signed := text.head? = some '+' || text.head? = some '-'
  let digits := if signed then text.tail else text
  if digits = [] || digits.any (!·.isDigit) then none
  else
    let magnitude : Int := Nat.ofDigitChars 10 digits 0
    let value := if text.head? = some '-' then -magnitude else magnitude
    if least ≤ value ∧ value ≤ most then some value else none

variable {c : Char}

theorem isDigit_of_mem_toDigits {n : Nat} (member : c ∈ Nat.toDigits 10 n) : c.isDigit = true :=
  Nat.isDigit_of_mem_toDigits (by decide) (by decide) member

variable {text : List Char}

theorem parseUnsigned_digits (limit : Nat) (some : text ≠ [])
    (digits : ∀ c ∈ text, c.isDigit = true) :
    parseUnsigned limit text =
      if Nat.ofDigitChars 10 text 0 < limit then Option.some (Nat.ofDigitChars 10 text 0) else none := by
  have unsigned : text.head? ≠ Option.some '+' := by
    intro signed
    exact absurd (digits '+' (mem_of_head? signed)) (by decide)
  have clean : text.any (!·.isDigit) = false := by
    rw [List.any_eq_false]
    intro c member
    simp [digits c member]
  simp [parseUnsigned, unsigned, clean, some]

variable {limit : Nat}

theorem parseUnsigned_lt {n : Nat} (read : parseUnsigned limit text = some n) : n < limit := by
  simp only [parseUnsigned, ite_none_left_eq_some, ite_none_right_eq_some] at read
  obtain ⟨_, small, same⟩ := read
  cases same
  exact small

theorem parseUnsigned_toDigits {n : Nat} (fits : n < limit) :
    parseUnsigned limit (Nat.toDigits 10 n) = some n := by
  rw [parseUnsigned_digits limit Nat.toDigits_ne_nil fun _ member => isDigit_of_mem_toDigits member,
    Nat.ofDigitChars_ten_toDigits, if_pos fits]

/-- A number written in decimal digits, perhaps with a plus sign in front. -/
def Denotes (text : List Char) (n : Nat) : Prop :=
  ∃ sign digits, text = sign ++ digits ∧ (sign = [] ∨ sign = ['+']) ∧ digits ≠ [] ∧
    (∀ c ∈ digits, c.isDigit = true) ∧ Nat.ofDigitChars 10 digits 0 = n

theorem parseUnsigned_eq_some {n : Nat} :
    parseUnsigned limit text = some n ↔ Denotes text n ∧ n < limit := by
  constructor
  · intro read
    simp only [parseUnsigned, ite_none_left_eq_some, ite_none_right_eq_some,
      Bool.or_eq_true, decide_eq_true_eq, List.any_eq_true, not_or, not_exists, not_and,
      Bool.not_eq_true', Bool.not_eq_false, some.injEq] at read
    obtain ⟨⟨nonempty, digits⟩, small, same⟩ := read
    refine ⟨?_, same ▸ small⟩
    by_cases signed : text.head? = some '+'
    · rw [if_pos signed] at nonempty digits same
      exact ⟨['+'], _, (cons_head?_tail signed).symm, .inr rfl, nonempty, digits, same⟩
    · rw [if_neg signed] at nonempty digits same
      exact ⟨[], _, rfl, .inl rfl, nonempty, digits, same⟩
  · rintro ⟨⟨_, number, split, signs, nonempty, digits, same⟩, fits⟩
    subst split
    rcases signs with rfl | rfl
    · rw [nil_append, parseUnsigned_digits limit nonempty digits, same, if_pos fits]
    · have clean : number.any (!·.isDigit) = false := by
        rw [List.any_eq_false]
        intro c member
        simp [digits c member]
      simp [parseUnsigned, clean, nonempty, same, fits]

theorem Denotes.unique {n m : Nat} (first : Denotes text n) (second : Denotes text m) : n = m := by
  have read := parseUnsigned_eq_some.mpr ⟨first, Nat.lt_succ_of_le (Nat.le_add_right n m)⟩
  rw [parseUnsigned_eq_some.mpr ⟨second, Nat.lt_succ_of_le (Nat.le_add_left m n)⟩] at read
  exact (some.inj read).symm

/-! ## The shortest spelling -/

theorem ofDigitChars_concat (digits : List Char) (c : Char) :
    Nat.ofDigitChars 10 (digits ++ [c]) 0 = 10 * Nat.ofDigitChars 10 digits 0 + (c.toNat - 48) := by
  rw [Nat.ofDigitChars_append]
  rfl

theorem toNat_of_isDigit (digit : c.isDigit = true) : 48 ≤ c.toNat ∧ c.toNat ≤ 57 := by
  simpa [Char.isDigit, UInt32.le_iff_toNat_le] using digit

theorem ofDigitChars_lt {digits : List Char} (every : ∀ c ∈ digits, c.isDigit = true) :
    Nat.ofDigitChars 10 digits 0 < 10 ^ digits.length := by
  induction digits using reverseRecOn with
  | nil => simp
  | append_singleton digits c ih =>
    have below := ih fun c member => every c (by simp [member])
    have last := toNat_of_isDigit (every c (by simp))
    rw [ofDigitChars_concat, length_append, length_singleton]
    omega

theorem length_toDigits_le {digits : List Char} (some : digits ≠ [])
    (every : ∀ c ∈ digits, c.isDigit = true) :
    (Nat.toDigits 10 (Nat.ofDigitChars 10 digits 0)).length ≤ digits.length :=
  Nat.toDigits_length 10 _ _ (length_pos_iff.mpr some) (ofDigitChars_lt every)

theorem eq_of_ofDigitChars_eq {left right : List Char} (every : ∀ c ∈ left, c.isDigit = true)
    (everyOther : ∀ c ∈ right, c.isDigit = true) (size : left.length = right.length)
    (same : Nat.ofDigitChars 10 left 0 = Nat.ofDigitChars 10 right 0) : left = right := by
  induction left using reverseRecOn generalizing right with
  | nil => exact (length_eq_zero_iff.mp size.symm).symm
  | append_singleton left c ih =>
    cases right using reverseRecOn with
    | nil => simp at size
    | append_singleton right d =>
      have first := toNat_of_isDigit (every c (by simp))
      have second := toNat_of_isDigit (everyOther d (by simp))
      rw [ofDigitChars_concat, ofDigitChars_concat] at same
      have begins : left = right := by
        apply ih (fun c member => every c (by simp [member]))
          (fun c member => everyOther c (by simp [member]))
        · simpa using size
        · omega
      have ends : c = d := by
        apply Char.toNat_inj.mp
        omega
      rw [begins, ends]

/-! ## Spellings of a fixed width -/

/-- A number written in so many decimal digits. -/
structure Spells (width value : Nat) (text : List Char) : Prop where
  length : text.length = width
  digits : ∀ c ∈ text, c.isDigit = true
  value : Nat.ofDigitChars 10 text 0 = value

variable {value : Nat}

theorem Spells.lt {width : Nat} (spells : Spells width value text) : value < 10 ^ width := by
  rw [← spells.value, ← spells.length]
  exact ofDigitChars_lt spells.digits

theorem ofDigitChars_zeros (count : Nat) :
    Nat.ofDigitChars 10 (replicate count '0') 0 = 0 := by
  induction count with
  | zero => rfl
  | succ count ih =>
    exact ih

theorem spells_filled {width : Nat} (some : 0 < width) (fits : value < 10 ^ width) :
    Spells width value
      (replicate (width - (Nat.toDigits 10 value).length) '0' ++ Nat.toDigits 10 value) where
  length := by
    have short := Nat.toDigits_length 10 _ _ some fits
    rw [length_append, length_replicate, Nat.sub_add_cancel short]
  digits := by
    intro c member
    rcases mem_append.mp member with zero | digit
    · rw [eq_of_mem_replicate zero]
      rfl
    · exact isDigit_of_mem_toDigits digit
  value := by
    rw [Nat.ofDigitChars_append, ofDigitChars_zeros, Nat.ofDigitChars_ten_toDigits]

/-! ## Other radices -/

/-- `char::to_digit`. -/
def toDigit (radix : Nat) (c : Char) : Option Nat :=
  let value :=
    if c.isDigit then c.toNat - 48
    else if 'a' ≤ c ∧ c ≤ 'z' then c.toNat - 87
    else if 'A' ≤ c ∧ c ≤ 'Z' then c.toNat - 55
    else radix
  if value < radix then some value else none

/-- The value of digits, accumulated from the left. -/
def ofRadix (radix : Nat) (digits : List Char) : Nat :=
  digits.foldl (fun value c => value * radix + (toDigit radix c).getD 0) 0

/-- `from_str_radix` at an unsigned type with so many values. -/
def fromStrRadix (limit radix : Nat) (text : List Char) : Option Nat :=
  let digits := if text.head? = some '+' then text.tail else text
  if digits = [] || digits.any (fun c => (toDigit radix c).isNone) then none
  else if ofRadix radix digits < limit then some (ofRadix radix digits) else none

/-- A number written in the digits of a radix. -/
structure RadixSpells (radix value : Nat) (text : List Char) : Prop where
  nonempty : text ≠ []
  digits : ∀ c ∈ text, (toDigit radix c).isSome
  value : Nat.ofDigits radix (text.reverse.map fun c => (toDigit radix c).getD 0) = value

theorem ofRadix_eq (radix : Nat) (digits : List Char) :
    ofRadix radix digits =
      Nat.ofDigits radix (digits.reverse.map fun c => (toDigit radix c).getD 0) := by
  induction digits using reverseRecOn with
  | nil => rfl
  | append_singleton digits c ih =>
    rw [ofRadix, foldl_append, reverse_append, reverse_singleton,
      singleton_append, map_cons, Nat.ofDigits_cons, ← ih, ofRadix, foldl_cons,
      foldl_nil]
    ring

theorem toDigit_of_isDigit (digit : c.isDigit = true) : toDigit 10 c = some (c.toNat - 48) := by
  have bounds := toNat_of_isDigit digit
  rw [toDigit]
  simp only [digit, ↓reduceIte]
  rw [if_pos (by omega)]

theorem isDigit_of_toDigit (digit : (toDigit 10 c).isSome) : c.isDigit = true := by
  by_contra other
  simp only [toDigit, Bool.not_eq_true] at digit other
  simp only [other, Bool.false_eq_true, Char.le_def, UInt32.le_iff_toNat_le] at digit
  have lower : 'a'.val.toNat = 97 := rfl
  have upper : 'A'.val.toNat = 65 := rfl
  have code : c.val.toNat = c.toNat := rfl
  split_ifs at digit <;> first | omega | simp at digit

theorem radixSpells_decimal (nonempty : text ≠ []) (digits : ∀ c ∈ text, c.isDigit = true) :
    RadixSpells 10 (Nat.ofDigitChars 10 text 0) text where
  nonempty := nonempty
  digits := by
    intro c member
    rw [toDigit_of_isDigit (digits c member)]
    rfl
  value := by
    clear nonempty
    rw [← ofRadix_eq]
    induction text using reverseRecOn with
    | nil => rfl
    | append_singleton text c ih =>
      have before := ih fun c member => digits c (by simp [member])
      rw [ofRadix] at before ⊢
      rw [foldl_append, before, foldl_cons, foldl_nil, ofDigitChars_concat,
        toDigit_of_isDigit (digits c (by simp)), getD_some, Nat.mul_comm]

theorem fromStrRadix_of_spells {radix : Nat} (spells : RadixSpells radix value text)
    (fits : value < limit) : fromStrRadix limit radix text = some value := by
  have unsigned : text.head? ≠ some '+' := by
    intro signed
    have digit := spells.digits '+' (mem_of_head? signed)
    simp [toDigit] at digit
  have clean : text.any (fun c => (toDigit radix c).isNone) = false := by
    rw [List.any_eq_false]
    intro c member
    simp [isSome_iff_ne_none.mp (spells.digits c member)]
  have same : ofRadix radix text = value := (ofRadix_eq radix text).trans spells.value
  simp [fromStrRadix, unsigned, clean, spells.nonempty, same, fits]

end Numeral
