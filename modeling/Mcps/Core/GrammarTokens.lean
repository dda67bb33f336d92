import Mcps.Core.CanonicalParser
import Mcps.Lib.JsonGrammar

/-!
# Strings and numbers of the grammar

The raw-bytes parser against the grammar of RFC 8259, token by token: a string is read
exactly as the characters its spelling denotes, and a number exactly if it is an integer
literal of a safe value, up to a character that would continue it.  The writer emits such
spellings.
-/

namespace Mcps

open List Option

open JsonGrammar (Spelled HexDigit CodeUnit Unescaped escapeLetters Unescapes HighSurrogate
  LowSurrogate IntegerLiteral)

/-! ## Escapes -/

variable {c : Char}

theorem char_le_iff {d : Char} : c ≤ d ↔ c.toNat ≤ d.toNat := Iff.rfl

theorem hexDigitValue_eq_some {value : Nat} : hexDigitValue c = some value ↔ HexDigit c value := by
  have digits : '0'.toNat = 48 ∧ '9'.toNat = 57 := ⟨rfl, rfl⟩
  have lowers : 'a'.toNat = 97 ∧ 'f'.toNat = 102 := ⟨rfl, rfl⟩
  have uppers : 'A'.toNat = 65 ∧ 'F'.toNat = 70 := ⟨rfl, rfl⟩
  constructor
  · intro read
    unfold hexDigitValue at read
    split at read
    next inside =>
      cases read
      exact .decimal inside.1 inside.2
    next =>
      split at read
      next inside =>
        cases read
        have same : c.toNat - 87 = c.toNat - 'a'.toNat + 10 := by
          rw [char_le_iff] at inside
          omega
        rw [same]
        exact .lower inside.1 inside.2
      next =>
        split at read
        next inside =>
          cases read
          have same : c.toNat - 55 = c.toNat - 'A'.toNat + 10 := by
            rw [char_le_iff] at inside
            omega
          rw [same]
          exact .upper inside.1 inside.2
        next => cases read
  · intro digit
    cases digit with
    | decimal low high => simp [hexDigitValue, low, high]
    | lower low high =>
      rw [char_le_iff] at low high
      simp only [hexDigitValue, char_le_iff]
      rw [if_neg (by omega), if_pos (by omega)]
      congr 1
      omega
    | upper low high =>
      rw [char_le_iff] at low high
      simp only [hexDigitValue, char_le_iff]
      rw [if_neg (by omega), if_neg (by omega), if_pos (by omega)]
      congr 1
      omega

variable {digits : List Char}

theorem readHex4_append {unit : Nat} (read : CodeUnit digits unit) (rest : List Char) :
    readHex4 (digits ++ rest) = some (unit, rest) := by
  cases read with
  | digits first second third fourth =>
    simp [readHex4, hexDigitValue_eq_some.mpr first, hexDigitValue_eq_some.mpr second,
      hexDigitValue_eq_some.mpr third, hexDigitValue_eq_some.mpr fourth]

variable {input rest : List Char}

theorem readHex4_eq_some {unit : Nat} (read : readHex4 input = some (unit, rest)) :
    ∃ digits, CodeUnit digits unit ∧ input = digits ++ rest := by
  unfold readHex4 at read
  split at read
  next a b c d rest =>
    simp only [bind_eq_bind, bind_eq_some_iff] at read
    obtain ⟨i, first, j, second, k, third, l, fourth, rfl, rfl⟩ := read
    exact ⟨[a, b, c, d], .digits (hexDigitValue_eq_some.mp first) (hexDigitValue_eq_some.mp second)
      (hexDigitValue_eq_some.mp third) (hexDigitValue_eq_some.mp fourth), rfl⟩
  next => cases read

theorem charFromU32_eq_some {code : Nat} : charFromU32 code = some c ↔ c.toNat = code := by
  constructor
  · intro scalar
    have same : charFromU32 code = scalarFrom 0 code := by simp [charFromU32, scalarFrom]
    rw [same] at scalar
    exact (toNat_scalar scalar).2
  · rintro rfl
    have valid : c.toNat.isValidChar := c.valid
    rw [charFromU32, if_pos valid, Char.ofNat_toNat]

theorem expect_eq_some {expected : Char} :
    expect expected input = some rest ↔ input = expected :: rest := by
  cases input with
  | nil => simp [expect]
  | cons c input =>
    rw [expect]
    split
    next same => simp [same]
    next other => simp [other]

theorem parseEscape_short {letter : Char} (known : (letter, c) ∈ escapeLetters) (rest : List Char) :
    parseEscape (letter :: rest) = some (c, rest) := by
  simp only [escapeLetters, mem_cons, not_mem_nil, or_false] at known
  rcases known with ⟨rfl, rfl⟩ | ⟨rfl, rfl⟩ | ⟨rfl, rfl⟩ | ⟨rfl, rfl⟩ | ⟨rfl, rfl⟩ | ⟨rfl, rfl⟩ |
    ⟨rfl, rfl⟩ | ⟨rfl, rfl⟩ <;> rfl

theorem parseUnicodeEscape_unit (unit : CodeUnit digits c.toNat) (rest : List Char) :
    parseUnicodeEscape (digits ++ rest) = some (c, rest) := by
  have proper := toNat_char c
  have high : ¬ (0xD800 ≤ c.toNat ∧ c.toNat ≤ 0xDBFF) := by omega
  have low : ¬ (0xDC00 ≤ c.toNat ∧ c.toNat ≤ 0xDFFF) := by omega
  rw [parseUnicodeEscape, readHex4_append unit]
  simp only [bind_eq_bind, bind_some]
  rw [if_neg high, if_neg low, charFromU32_eq_some.mpr rfl]
  rfl

theorem parseUnicodeEscape_pair {first second : List Char} {high low : Nat}
    (leading : CodeUnit first high) (isHigh : HighSurrogate high) (trailing : CodeUnit second low)
    (isLow : LowSurrogate low) (code : c.toNat = 0x10000 + (high - 0xD800) * 0x400 + (low - 0xDC00))
    (rest : List Char) :
    parseUnicodeEscape (first ++ '\\' :: 'u' :: (second ++ rest)) = some (c, rest) := by
  rw [HighSurrogate] at isHigh
  rw [LowSurrogate] at isLow
  rw [parseUnicodeEscape, readHex4_append leading]
  simp only [bind_eq_bind, bind_some]
  rw [if_pos isHigh]
  simp only [expect, ↓reduceIte, bind_some, readHex4_append trailing]
  rw [if_pos isLow, charFromU32_eq_some.mpr code]
  rfl

theorem parseUnicodeEscape_eq_some (read : parseUnicodeEscape input = some (c, rest)) :
    ∃ piece, input = piece ++ rest ∧ ∀ text chars, Unescapes text chars →
      Unescapes ('\\' :: 'u' :: (piece ++ text)) (c :: chars) := by
  rw [parseUnicodeEscape] at read
  simp only [bind_eq_bind, bind_eq_some_iff, Prod.exists] at read
  obtain ⟨_, behind, leading, read⟩ := read
  obtain ⟨first, unit, rfl⟩ := readHex4_eq_some leading
  split at read
  next isHigh =>
    simp only [bind_eq_some_iff, Prod.exists, expect_eq_some] at read
    obtain ⟨_, rfl, _, rfl, _, behind, trailing, read⟩ := read
    obtain ⟨second, lowUnit, rfl⟩ := readHex4_eq_some trailing
    split at read
    next isLow =>
      simp only [bind_eq_some_iff] at read
      obtain ⟨d, scalar, rfl, rfl⟩ := read
      refine ⟨first ++ '\\' :: 'u' :: second, by simp, fun text chars denotes => ?_⟩
      have pair := Unescapes.pair unit isHigh lowUnit isLow (charFromU32_eq_some.mp scalar) denotes
      simpa using pair
    next => cases read
  next notHigh =>
    split at read
    next => cases read
    next notLow =>
      simp only [bind_eq_some_iff] at read
      obtain ⟨d, scalar, rfl, rfl⟩ := read
      rw [charFromU32_eq_some.mp scalar |>.symm] at unit
      exact ⟨first, rfl, fun text chars denotes => .escape unit denotes⟩

theorem parseEscape_eq_some (read : parseEscape input = some (c, rest)) :
    ∃ piece, input = piece ++ rest ∧ ∀ text chars, Unescapes text chars →
      Unescapes ('\\' :: (piece ++ text)) (c :: chars) := by
  have short {letter d : Char} (known : (letter, d) ∈ escapeLetters) :
      ∃ piece, letter :: rest = piece ++ rest ∧ ∀ text chars, Unescapes text chars →
        Unescapes ('\\' :: (piece ++ text)) (d :: chars) :=
    ⟨[letter], rfl, fun text chars denotes => .short known denotes⟩
  unfold parseEscape at read
  split at read
  case h_9 =>
    obtain ⟨piece, rfl, spells⟩ := parseUnicodeEscape_eq_some read
    exact ⟨'u' :: piece, rfl, spells⟩
  all_goals cases read
  all_goals exact short (by decide)

/-! ## Strings -/

variable {chars : List Char}

theorem parseChars_unescapes {text : List Char} (denotes : Unescapes text chars) {fuel : Nat}
    (enough : text.length < fuel) (rest : List Char) :
    parseChars fuel (text ++ '"' :: rest) = some (chars, rest) := by
  induction denotes generalizing fuel with
  | nil =>
    cases fuel with
    | zero => omega
    | succ fuel => rfl
  | @plain c text chars unescaped _ ih =>
    cases fuel with
    | zero => omega
    | succ fuel =>
      rw [length_cons] at enough
      rw [cons_append, parseChars, if_neg unescaped.2.1, if_neg unescaped.2.2,
        if_neg (by have := unescaped.1; omega), ih (by omega)]
      rfl
  | @short letter c text chars known _ ih =>
    cases fuel with
    | zero => omega
    | succ fuel =>
      simp only [length_cons] at enough
      simp only [cons_append, parseChars, parseEscape_short known, bind_eq_bind,
        bind_some, ih (show text.length < fuel by omega)]
      rfl
  | @escape c digits text chars unit _ ih =>
    cases fuel with
    | zero => omega
    | succ fuel =>
      simp only [length_cons, length_append] at enough
      have read := parseUnicodeEscape_unit unit (text ++ '"' :: rest)
      simp only [cons_append, append_assoc, parseChars, parseEscape, read,
        bind_eq_bind, bind_some, ih (show text.length < fuel by omega)]
      rfl
  | @pair c first second text chars high low leading isHigh trailing isLow code _ ih =>
    cases fuel with
    | zero => omega
    | succ fuel =>
      simp only [length_cons, length_append] at enough
      have read := parseUnicodeEscape_pair leading isHigh trailing isLow code (text ++ '"' :: rest)
      simp only [cons_append, append_assoc, parseChars, parseEscape, read,
        bind_eq_bind, bind_some, ih (show text.length < fuel by omega)]
      rfl

theorem parseChars_eq_some {fuel : Nat} (read : parseChars fuel input = some (chars, rest)) :
    ∃ text, input = text ++ '"' :: rest ∧ Unescapes text chars := by
  induction fuel generalizing input chars with
  | zero => cases read
  | succ fuel ih =>
    cases input with
    | nil => cases read
    | cons c input =>
      rw [parseChars] at read
      split at read
      next quote =>
        cases read
        exact ⟨[], by rw [quote]; rfl, .nil⟩
      next notQuote =>
        split at read
        next backslash =>
          simp only [bind_eq_bind, bind_eq_some_iff, Prod.exists] at read
          obtain ⟨_, _, escaped, more, last, others, rfl, rfl⟩ := read
          obtain ⟨piece, rfl, spells⟩ := parseEscape_eq_some escaped
          obtain ⟨text, rfl, denotes⟩ := ih others
          exact ⟨'\\' :: (piece ++ text), by simp [backslash], spells text more denotes⟩
        next notBackslash =>
          split at read
          next => cases read
          next printable =>
            simp only [bind_eq_bind, bind_eq_some_iff, Prod.exists] at read
            obtain ⟨more, last, others, rfl, rfl⟩ := read
            obtain ⟨text, rfl, denotes⟩ := ih others
            exact ⟨c :: text, rfl, .plain ⟨by omega, notQuote, notBackslash⟩ denotes⟩

variable {spelling : List Char}

theorem parseString_unescapes {value : String} (denotes : Unescapes spelling value.toList)
    (rest : List Char) : parseString ('"' :: (spelling ++ '"' :: rest)) = some (value, rest) := by
  have enough : spelling.length < (spelling ++ '"' :: rest).length := by simp
  simp only [parseString, expect, ↓reduceIte, bind_eq_bind, bind_some,
    parseChars_unescapes denotes enough, String.ofList_toList]
  rfl

theorem parseString_eq_some {value : String} (read : parseString input = some (value, rest)) :
    ∃ spelling : String, input = '"' :: (spelling.toList ++ '"' :: rest) ∧
      Unescapes spelling.toList value.toList := by
  simp only [parseString, bind_eq_bind, bind_eq_some_iff, Prod.exists, expect_eq_some] at read
  obtain ⟨_, rfl, _, _, read, rfl, rfl⟩ := read
  obtain ⟨text, rfl, denotes⟩ := parseChars_eq_some read
  exact ⟨String.ofList text, by simp, by simpa using denotes⟩

theorem unescapes_unique {left right : List Char} (first : Unescapes spelling left)
    (second : Unescapes spelling right) : left = right := by
  have one := parseChars_unescapes first (Nat.lt_succ_self _) []
  have two := parseChars_unescapes second (Nat.lt_succ_self _) []
  rw [one] at two
  cases two
  rfl

/-! ## Written strings -/

theorem parseEscape_control {code : Nat} (control : code < 32) (rest : List Char) :
    writeChar (Char.ofNat code) ++ rest = '\\' :: ((writeChar (Char.ofNat code)).tail ++ rest) ∧
      parseEscape ((writeChar (Char.ofNat code)).tail ++ rest) = some (Char.ofNat code, rest) := by
  interval_cases code <;> exact ⟨rfl, rfl⟩

theorem writeChar_literal (quote : c ≠ '"') (backslash : c ≠ '\\') (printable : ¬ c.toNat < 32) :
    writeChar c = [c] := by
  have different : ∀ control : Char, control.toNat < 32 → c ≠ control := by
    intro control small same
    exact printable (same ▸ small)
  simp only [writeChar, quote, backslash, different '\x08' (by decide),
    different '\t' (by decide), different '\n' (by decide), different '\x0c' (by decide),
    different '\r' (by decide), ↓reduceIte, ite_eq_right_iff]
  omega

theorem unescapes_writeChar (c : Char) {text : List Char} (denotes : Unescapes text chars) :
    Unescapes (writeChar c ++ text) (c :: chars) := by
  by_cases quote : c = '"'
  · subst quote
    exact .short (by decide) denotes
  by_cases backslash : c = '\\'
  · subst backslash
    exact .short (by decide) denotes
  by_cases control : c.toNat < 32
  · obtain ⟨opens, -⟩ := parseEscape_control control text
    obtain ⟨-, decodes⟩ := parseEscape_control control []
    rw [Char.ofNat_toNat] at opens decodes
    obtain ⟨_, same, spells⟩ := parseEscape_eq_some decodes
    rw [opens, append_cancel_right same]
    exact spells text chars denotes
  · rw [writeChar_literal quote backslash control]
    exact .plain ⟨not_lt.mp control, quote, backslash⟩ denotes

theorem unescapes_writeChars (chars : List Char) : Unescapes (writeChars chars) chars := by
  induction chars with
  | nil => exact .nil
  | cons c chars ih => exact unescapes_writeChar c ih

/-! ## Numbers -/

/-- The text after a number does not continue it. -/
def EndsNumber (rest : List Char) : Prop :=
  ∀ c, rest.head? = some c → c.isDigit = false ∧ c ≠ '.' ∧ c ≠ 'e' ∧ c ≠ 'E'

theorem endsNumber_nil : EndsNumber [] := by
  intro c head
  simp at head

theorem endsNumber_cons (rest : List Char)
    (stops : c.isDigit = false ∧ c ≠ '.' ∧ c ≠ 'e' ∧ c ≠ 'E') : EndsNumber (c :: rest) := by
  intro head same
  simp only [head?_cons, some.injEq] at same
  exact same ▸ stops

variable {negative : Bool}

theorem finishNumber_of_safe {i : Int}
    (read : (if negative then -(Nat.ofDigitChars 10 digits 0 : Int)
      else Nat.ofDigitChars 10 digits 0) = i) (safe : SafeInteger i) (ends : EndsNumber rest) :
    finishNumber negative digits rest = some (.number i, rest) := by
  have inRange : i64Min ≤ i ∧ i ≤ i64Max := by
    simp only [SafeInteger, maxSafeInteger, i64Min, i64Max] at safe ⊢
    omega
  have parsed : parseI64 negative digits = some i := by
    simp only [parseI64, read]
    exact if_pos inRange
  unfold finishNumber
  split
  · rename_i head
    exact absurd rfl (ends _ head).2.1
  · rename_i head
    exact absurd rfl (ends _ head).2.2.1
  · rename_i head
    exact absurd rfl (ends _ head).2.2.2
  · simp [parsed, safe]

theorem takeWhile_isDigit_append (every : ∀ d ∈ digits, d.isDigit) (ends : EndsNumber rest) :
    (digits ++ rest).takeWhile Char.isDigit = digits ∧
      (digits ++ rest).dropWhile Char.isDigit = rest := by
  have stops : rest.takeWhile Char.isDigit = [] ∧ rest.dropWhile Char.isDigit = rest := by
    cases rest with
    | nil => simp
    | cons c rest => simp [(ends c rfl).1]
  constructor
  · rw [takeWhile_append_of_pos every, stops.1, append_nil]
  · rw [dropWhile_append_of_pos every, stops.2]

theorem parseDigits_integerText {integer : List Char} {value : Int}
    (digits : JsonGrammar.IntegerText integer)
    (read : (if negative then -(Nat.ofDigitChars 10 integer 0 : Int)
      else Nat.ofDigitChars 10 integer 0) = value) (safe : SafeInteger value)
    (ends : EndsNumber rest) :
    parseDigits negative (integer ++ rest) = some (.number value, rest) := by
  cases digits with
  | zero => exact finishNumber_of_safe read safe ends
  | @digits c others low high every =>
    obtain ⟨taken, dropped⟩ := takeWhile_isDigit_append every ends
    have notZero : c ≠ '0' := by
      rintro rfl
      exact absurd low (by decide)
    rw [cons_append, parseDigits, if_neg notZero, if_pos ⟨low, high⟩, taken, dropped]
    exact finishNumber_of_safe read safe ends

theorem parseNumber_literal {value : Int} (literal : IntegerLiteral spelling value)
    (safe : SafeInteger value) (ends : EndsNumber rest) :
    parseNumber (spelling ++ rest) = some (.number value, rest) := by
  cases literal with
  | negative digits =>
    exact parseDigits_integerText digits rfl safe ends
  | natural digits =>
    have read : parseDigits false (spelling ++ rest) =
        some (.number (Nat.ofDigitChars 10 spelling 0), rest) :=
      parseDigits_integerText digits rfl safe ends
    rw [← read]
    cases digits with
    | zero => rfl
    | digits low _ _ =>
      rw [cons_append, parseNumber, if_neg]
      rintro rfl
      exact absurd low (by decide)

variable {value : JcsValue}

theorem finishNumber_eq_some {after : List Char}
    (read : finishNumber negative digits rest = some (value, after)) :
    after = rest ∧ ∃ i, value = .number i ∧ SafeInteger i ∧
      i = if negative then -(Nat.ofDigitChars 10 digits 0 : Int) else Nat.ofDigitChars 10 digits 0 := by
  unfold finishNumber at read
  split at read
  next => cases read
  next => cases read
  next => cases read
  next =>
    simp only [bind_eq_bind, bind_eq_some_iff, parseI64, ite_none_right_eq_some, some.injEq] at read
    obtain ⟨i, ⟨_, same⟩, safe, rfl, rfl⟩ := read
    exact ⟨rfl, i, rfl, safe, same.symm⟩

theorem parseDigits_eq_some (read : parseDigits negative input = some (value, rest)) :
    ∃ integer i, input = integer ++ rest ∧ JsonGrammar.IntegerText integer ∧
      value = .number i ∧ SafeInteger i ∧
      i = if negative then -(Nat.ofDigitChars 10 integer 0 : Int)
        else Nat.ofDigitChars 10 integer 0 := by
  cases input with
  | nil => cases read
  | cons c input =>
    rw [parseDigits] at read
    split at read
    next zero =>
      obtain ⟨rfl, i, same, safe, denoted⟩ := finishNumber_eq_some read
      exact ⟨['0'], i, by rw [zero]; rfl, .zero, same, safe, denoted⟩
    next =>
      split at read
      next digit =>
        obtain ⟨rfl, i, same, safe, denoted⟩ := finishNumber_eq_some read
        refine ⟨c :: input.takeWhile Char.isDigit, i, ?_, ?_, same, safe, denoted⟩
        · rw [cons_append, takeWhile_append_dropWhile]
        · exact .digits digit.1 digit.2 fun d member => mem_takeWhile_imp member
      next => cases read

theorem parseNumber_eq_some (read : parseNumber input = some (value, rest)) :
    ∃ spelling i, input = spelling ++ rest ∧ IntegerLiteral spelling i ∧
      value = .number i ∧ SafeInteger i := by
  cases input with
  | nil => cases read
  | cons c input =>
    rw [parseNumber] at read
    split at read
    next minus =>
      obtain ⟨integer, i, rfl, digits, same, safe, denoted⟩ := parseDigits_eq_some read
      exact ⟨'-' :: integer, i, by rw [minus]; rfl, denoted ▸ .negative digits, same, safe⟩
    next =>
      obtain ⟨integer, i, split, digits, same, safe, denoted⟩ := parseDigits_eq_some read
      exact ⟨integer, i, split, denoted ▸ .natural digits, same, safe⟩

/-! ## Written integers -/

theorem toDigits_shape (n : Nat) :
    (n = 0 ∧ Nat.toDigits 10 n = ['0']) ∨
      ∃ c digits, Nat.toDigits 10 n = c :: digits ∧ '1' ≤ c ∧ c ≤ '9' ∧
        ∀ d ∈ digits, d.isDigit := by
  induction n using Nat.strongRecOn with
  | ind n ih =>
    by_cases small : n < 10
    · rw [Nat.toDigits_of_lt_base small]
      interval_cases n
      · exact .inl ⟨rfl, rfl⟩
      all_goals exact .inr ⟨_, [], rfl, by decide, by decide, by simp⟩
    · right
      rw [Nat.toDigits_of_base_le (by decide) (by omega)]
      rcases ih (n / 10) (by omega) with ⟨_, -⟩ | ⟨c, digits, shape, low, high, every⟩
      · omega
      · refine ⟨c, digits ++ [Nat.digitChar (n % 10)], by rw [shape]; rfl, low, high, ?_⟩
        intro d member
        rcases mem_append.mp member with inDigits | last
        · exact every d inDigits
        · rw [mem_singleton.mp last, Nat.isDigit_digitChar]
          exact decide_eq_true (by omega)

theorem integerText_toDigits (n : Nat) : JsonGrammar.IntegerText (Nat.toDigits 10 n) := by
  obtain ⟨-, shape⟩ | ⟨c, _, shape, low, high, every⟩ := toDigits_shape n
  · exact shape ▸ .zero
  · exact shape ▸ .digits low high every

theorem integerLiteral_writeInteger (i : Int) : IntegerLiteral (writeInteger i) i := by
  have digits := integerText_toDigits i.natAbs
  rw [writeInteger]
  split
  · have literal := IntegerLiteral.negative digits
    rwa [Nat.ofDigitChars_ten_toDigits, show -(i.natAbs : Int) = i by omega] at literal
  · have literal := IntegerLiteral.natural digits
    rwa [Nat.ofDigitChars_ten_toDigits, show (i.natAbs : Int) = i by omega] at literal

theorem writeInteger_injective : Function.Injective writeInteger := by
  intro left right same
  exact (integerLiteral_writeInteger left).unique (same ▸ integerLiteral_writeInteger right)

end Mcps
