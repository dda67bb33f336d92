import Mcps.Lib.Utf8

/-!
# Length-prefixed fields

A field is framed by its length, a separator and its contents.  If the text of a length
never contains the separator and tells lengths apart, a framed field can be split off
whatever follows it, so that a sequence of framed fields is read in one way only.  A length
of fixed width needs no separator.
-/

namespace Framing

open List

variable {α : Type} {header : Nat → List α} {separator : α}

/-- A field after its length. -/
def frame (header : Nat → List α) (separator : α) (field : List α) : List α :=
  header field.length ++ separator :: field

variable {left right leftRest rightRest : List α}

theorem append_cons_inj (notLeft : separator ∉ left) (notRight : separator ∉ right)
    (same : left ++ separator :: leftRest = right ++ separator :: rightRest) :
    left = right ∧ leftRest = rightRest := by
  induction left generalizing right with
  | nil =>
    cases right with
    | nil => exact ⟨rfl, tail_eq_of_cons_eq same⟩
    | cons first others =>
      have inRight : separator = first := head_eq_of_cons_eq same
      exact absurd (inRight ▸ mem_cons_self) notRight
  | cons first others ih =>
    cases right with
    | nil =>
      have inLeft : first = separator := head_eq_of_cons_eq same
      exact absurd (inLeft ▸ mem_cons_self) notLeft
    | cons candidate rest =>
      obtain ⟨rfl, others⟩ := cons_eq_cons.mp same
      rcases ih (fun member => notLeft (mem_cons_of_mem _ member))
        (fun member => notRight (mem_cons_of_mem _ member)) others with ⟨rfl, rests⟩
      exact ⟨rfl, rests⟩

theorem frame_append_inj (injective : Function.Injective header)
    (separated : ∀ length, separator ∉ header length)
    (same : frame header separator left ++ leftRest = frame header separator right ++ rightRest) :
    left = right ∧ leftRest = rightRest := by
  simp only [frame, append_assoc] at same
  obtain ⟨lengths, rests⟩ := append_cons_inj (separated _) (separated _) same
  exact append_inj rests (injective lengths)

/-! ## Lengths of a fixed width -/

theorem fixed_append_inj {width : Nat} (fixed : ∀ length, (header length).length = width)
    (apart : header left.length = header right.length → left.length = right.length)
    (same : header left.length ++ left ++ leftRest = header right.length ++ right ++ rightRest) :
    left = right ∧ leftRest = rightRest := by
  rw [append_assoc, append_assoc] at same
  obtain ⟨headers, rest⟩ := append_inj same (by rw [fixed, fixed])
  exact append_inj rest (apart headers)

theorem eq_of_digits_eq {base : Nat} (count : Nat) {left right : Nat}
    (leftSmall : left < base ^ count) (rightSmall : right < base ^ count)
    (same : ∀ place < count, left / base ^ place % base = right / base ^ place % base) :
    left = right := by
  induction count generalizing left right with
  | zero =>
    rw [pow_zero, Nat.lt_one_iff] at leftSmall rightSmall
    rw [leftSmall, rightSmall]
  | succ count ih =>
    have higher : left / base = right / base := by
      apply ih
      · exact Nat.div_lt_of_lt_mul (by rwa [← pow_succ'])
      · exact Nat.div_lt_of_lt_mul (by rwa [← pow_succ'])
      · intro place small
        have digit := same (place + 1) (Nat.succ_lt_succ small)
        rwa [pow_succ', ← Nat.div_div_eq_div_mul, ← Nat.div_div_eq_div_mul] at digit
    have lowest : left % base = right % base := by simpa using same 0 (Nat.succ_pos count)
    rw [← Nat.div_add_mod left base, ← Nat.div_add_mod right base, higher, lowest]

/-! ## Decimal lengths -/

/-- The bytes of a length in decimal. -/
def decimal (length : Nat) : Bytes := textBytes (toString length)

theorem decimal_injective : Function.Injective decimal := by
  intro left right same
  have texts : left.repr = right.repr := textBytes_injective same
  have digits : Nat.toDigits 10 left = Nat.toDigits 10 right := by
    rw [← Nat.toList_repr, ← Nat.toList_repr, texts]
  calc
    left = Nat.ofDigitChars 10 (Nat.toDigits 10 left) 0 := Nat.ofDigitChars_ten_toDigits.symm
    _ = Nat.ofDigitChars 10 (Nat.toDigits 10 right) 0 := by rw [digits]
    _ = right := Nat.ofDigitChars_ten_toDigits

theorem colon_notMem_decimal (length : Nat) : (58 : UInt8) ∉ decimal length := by
  intro member
  have encoded : (58 : UInt8) ∈ encodeUtf8 (Nat.toDigits 10 length) := by
    rw [← Nat.toList_repr, ← textBytes_eq]
    exact member
  obtain ⟨c, isDigit, byte⟩ := mem_flatMap.mp encoded
  have bounds := Nat.isDigit_of_mem_toDigits (by decide) (by decide) isDigit
  have low : 48 ≤ c.toNat ∧ c.toNat ≤ 57 := by
    simpa [Char.isDigit, UInt32.le_iff_toNat_le] using bounds
  rw [utf8EncodeChar_ascii (by omega), mem_singleton] at byte
  have value := congrArg UInt8.toNat byte
  simp only [UInt8.toNat_ofNat', UInt8.reduceToNat] at value
  omega

/-! ## Texts -/

/-- A text after its length in bytes. -/
def frameText (text : String) : String := toString (textBytes text).length ++ ":" ++ text

theorem textBytes_frameText (text : String) :
    textBytes (frameText text) = frame decimal 58 (textBytes text) := by
  have colon : textBytes ":" = [58] := by decide
  simp [frameText, textBytes_append, frame, decimal, colon]

theorem frameText_append_inj {left right leftRest rightRest : String}
    (same : frameText left ++ leftRest = frameText right ++ rightRest) :
    left = right ∧ leftRest = rightRest := by
  have bytes := congrArg textBytes same
  rw [textBytes_append, textBytes_append, textBytes_frameText, textBytes_frameText] at bytes
  obtain ⟨fields, rests⟩ := frame_append_inj decimal_injective colon_notMem_decimal bytes
  exact ⟨textBytes_injective fields, textBytes_injective rests⟩

end Framing
