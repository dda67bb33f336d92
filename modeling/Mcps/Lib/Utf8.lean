import Mathlib.Tactic

/-!
# UTF-8

Strict decoding of a byte sequence into characters: shortest forms only, no surrogates,
nothing beyond U+10FFFF.  The encoder is the one strings are built on, and decoding
inverts it.  `textChars` reads the characters of a string off its bytes with this
decoder, a plain recursion that can be evaluated.
-/

open List Option

/-- A sequence of bytes. -/
abbrev Bytes := List UInt8

/-- The UTF-8 encoding of a sequence of characters. -/
def encodeUtf8 (text : List Char) : Bytes := text.flatMap String.utf8EncodeChar

/-! Properties of the characters of a text are decided along the text, not over all characters. -/

instance (priority := 2000) decidableForallMemChars {property : Char → Prop}
    [DecidablePred property] (text : List Char) : Decidable (∀ c ∈ text, property c) :=
  List.decidableBAll property text

instance (priority := 2000) decidableForallMemChar? {property : Char → Prop}
    [DecidablePred property] (found : Option Char) : Decidable (∀ c ∈ found, property c) :=
  Option.decidableForallMem found

variable (c : Char)

theorem utf8EncodeChar_ne_nil : String.utf8EncodeChar c ≠ [] := by
  intro empty
  have size := String.length_utf8EncodeChar c
  rw [empty] at size
  exact absurd size (Char.utf8Size_pos c).ne

theorem toNat_char : c.toNat < 0xD800 ∨ 0xE000 ≤ c.toNat ∧ c.toNat < 0x110000 := by
  have valid := c.valid
  have code : c.val.toNat = c.toNat := rfl
  omega

/-- The six payload bits of a continuation byte. -/
def continuationBits (byte : UInt8) : Option Nat :=
  if 0x80 ≤ byte.toNat ∧ byte.toNat < 0xC0 then some (byte.toNat - 0x80) else none

/-- The character of a multi-byte code, if it needs that many bytes and is a scalar value. -/
def scalarFrom (least code : Nat) : Option Char :=
  if least ≤ code ∧ code.isValidChar then some (Char.ofNat code) else none

/-- Decode a byte sequence, rejecting every ill-formed one. -/
def decodeUtf8 : Bytes → Option (List Char)
  | [] => some []
  | a :: rest =>
    if a.toNat < 0x80 then do
      return Char.ofNat a.toNat :: (← decodeUtf8 rest)
    else if a.toNat < 0xC0 then none
    else if a.toNat < 0xE0 then
      match rest with
      | b :: rest => do
        let b ← continuationBits b
        let c ← scalarFrom 0x80 ((a.toNat - 0xC0) * 64 + b)
        return c :: (← decodeUtf8 rest)
      | _ => none
    else if a.toNat < 0xF0 then
      match rest with
      | b :: c :: rest => do
        let b ← continuationBits b
        let c ← continuationBits c
        let c ← scalarFrom 0x800 (((a.toNat - 0xE0) * 64 + b) * 64 + c)
        return c :: (← decodeUtf8 rest)
      | _ => none
    else if a.toNat < 0xF8 then
      match rest with
      | b :: c :: d :: rest => do
        let b ← continuationBits b
        let c ← continuationBits c
        let d ← continuationBits d
        let c ← scalarFrom 0x10000 ((((a.toNat - 0xF0) * 64 + b) * 64 + c) * 64 + d)
        return c :: (← decodeUtf8 rest)
      | _ => none
    else none

variable (text : List Char)

theorem encodeUtf8_cons : encodeUtf8 (c :: text) = String.utf8EncodeChar c ++ encodeUtf8 text :=
  flatMap_cons

variable {n : Nat}

theorem continuationBits_ofNat (small : n < 64) :
    continuationBits (UInt8.ofNat (n + 0x80)) = some n := by
  have value : (UInt8.ofNat (n + 0x80)).toNat = n + 0x80 := by
    rw [UInt8.toNat_ofNat', Nat.mod_eq_of_lt (by omega)]
  simp only [continuationBits, value]
  rw [if_pos (by omega)]
  simp

theorem scalarFrom_toNat {least : Nat} {c : Char} (enough : least ≤ c.toNat) :
    scalarFrom least c.toNat = some c := by
  rw [scalarFrom, if_pos ⟨enough, c.valid⟩, Char.ofNat_toNat]

theorem toNat_ofNat_of_lt (small : n < 256) : (UInt8.ofNat n).toNat = n := by
  rw [UInt8.toNat_ofNat', Nat.mod_eq_of_lt small]

theorem length_le_encodeUtf8 : text.length ≤ (encodeUtf8 text).length := by
  induction text with
  | nil => simp
  | cons c text ih =>
    have some := Char.utf8Size_pos c
    rw [encodeUtf8_cons, length_append, String.length_utf8EncodeChar, length_cons]
    omega

/-- Decoding one encoded character.  The cases are the four lengths of an encoding. -/
theorem decodeUtf8_utf8EncodeChar (rest : Bytes) :
    decodeUtf8 (String.utf8EncodeChar c ++ rest) =
      (decodeUtf8 rest).map fun chars => c :: chars := by
  have bound : c.toNat < 0x110000 := by
    have valid := c.valid
    change c.val.toNat < _
    omega
  have code : c.val.toNat = c.toNat := rfl
  simp only [String.utf8EncodeChar, code]
  generalize value : c.toNat = v at bound
  have scalar : ∀ least, least ≤ v → scalarFrom least v = some c := by
    intro least enough
    rw [← value] at enough ⊢
    exact scalarFrom_toNat enough
  by_cases one : v ≤ 0x7f
  · have lead : (UInt8.ofNat v).toNat = v := toNat_ofNat_of_lt (by omega)
    have char : Char.ofNat v = c := by rw [← value, Char.ofNat_toNat]
    rw [if_pos one, cons_append, decodeUtf8.eq_def]
    simp only [lead, if_pos (show v < 0x80 by omega), char, map_eq_bind]
    rfl
  by_cases two : v ≤ 0x7ff
  · have lead : (UInt8.ofNat (v / 64 % 0x20 + 0xc0)).toNat = v / 64 + 0xc0 := by
      rw [toNat_ofNat_of_lt (by omega), Nat.mod_eq_of_lt (by omega)]
    have joined : (v / 64 + 0xc0 - 0xc0) * 64 + v % 64 = v := by omega
    simp only [one, two, ↓reduceIte, cons_append, decodeUtf8, lead,
      if_pos (show v / 64 + 0xc0 < 0xe0 by omega),
      continuationBits_ofNat (show v % 0x40 < 64 by omega), bind_eq_bind, bind_some,
      joined,
      scalar 0x80 (by omega), map_eq_bind]
    rfl
  by_cases three : v ≤ 0xffff
  · have lead : (UInt8.ofNat (v / 4096 % 0x10 + 0xe0)).toNat = v / 4096 + 0xe0 := by
      rw [toNat_ofNat_of_lt (by omega), Nat.mod_eq_of_lt (by omega)]
    have joined : ((v / 4096 + 0xe0 - 0xe0) * 64 + v / 64 % 64) * 64 + v % 64 = v := by omega
    simp only [one, two, three, ↓reduceIte, cons_append, decodeUtf8, lead,
      if_pos (show v / 4096 + 0xe0 < 0xf0 by omega),
      continuationBits_ofNat (show v / 64 % 0x40 < 64 by omega),
      continuationBits_ofNat (show v % 0x40 < 64 by omega), bind_eq_bind, bind_some,
      joined,
      scalar 0x800 (by omega), map_eq_bind]
    rfl
  · have lead : (UInt8.ofNat (v / 262144 % 0x08 + 0xf0)).toNat = v / 262144 + 0xf0 := by
      rw [toNat_ofNat_of_lt (by omega), Nat.mod_eq_of_lt (by omega)]
    have joined : (((v / 262144 + 0xf0 - 0xf0) * 64 + v / 4096 % 64) * 64 + v / 64 % 64) * 64
        + v % 64 = v := by omega
    simp only [one, two, three, ↓reduceIte, cons_append, decodeUtf8, lead,
      if_pos (show v / 262144 + 0xf0 < 0xf8 by omega),
      continuationBits_ofNat (show v / 4096 % 0x40 < 64 by omega),
      continuationBits_ofNat (show v / 64 % 0x40 < 64 by omega),
      continuationBits_ofNat (show v % 0x40 < 64 by omega), bind_eq_bind, bind_some,
      joined,
      scalar 0x10000 (by omega), map_eq_bind]
    rfl

theorem decodeUtf8_encodeUtf8 : decodeUtf8 (encodeUtf8 text) = some text := by
  induction text with
  | nil => rfl
  | cons c text ih =>
    rw [encodeUtf8] at ih
    rw [encodeUtf8, flatMap_cons, decodeUtf8_utf8EncodeChar, ih]
    rfl

theorem toNat_scalar {least code : Nat} {c : Char} (scalar : scalarFrom least code = some c) :
    least ≤ code ∧ c.toNat = code := by
  unfold scalarFrom at scalar
  split at scalar
  · rename_i valid
    cases scalar
    refine ⟨valid.1, ?_⟩
    rw [Char.ofNat, dif_pos valid.2]
    rfl
  · cases scalar

theorem continuationBits_eq_some {byte : UInt8} {bits : Nat}
    (continuation : continuationBits byte = some bits) : bits < 64 ∧ byte = UInt8.ofNat (bits + 0x80) := by
  unfold continuationBits at continuation
  split at continuation
  · rename_i range
    have value := some.inj continuation
    subst value
    refine ⟨by omega, ?_⟩
    rw [Nat.sub_add_cancel range.1, UInt8.ofNat_toNat]
  · cases continuation

theorem ofNat_toNat_eq {byte : UInt8} (same : n = byte.toNat) : UInt8.ofNat n = byte := by
  rw [same, UInt8.ofNat_toNat]

theorem encodeUtf8_of_decodeUtf8 {bytes : Bytes} {text : List Char}
    (decoded : decodeUtf8 bytes = some text) : encodeUtf8 text = bytes := by
  fun_induction decodeUtf8 bytes generalizing text with
  | case1 =>
    cases decoded
    rfl
  | case2 a rest ascii ih =>
    obtain ⟨tail, read, made⟩ := bind_eq_some_iff.mp decoded
    cases made
    have code : (Char.ofNat a.toNat).val.toNat = a.toNat := by
      rw [Char.ofNat, dif_pos (Or.inl (by omega))]
      rfl
    have encoded : String.utf8EncodeChar (Char.ofNat a.toNat) = [a] := by
      simp only [String.utf8EncodeChar, code]
      rw [if_pos (by omega), UInt8.ofNat_toNat]
    rw [encodeUtf8_cons, encoded, ih read]
    rfl
  | case4 a notAscii notLead lead b rest ih =>
    simp only [bind_eq_bind, bind_eq_some_iff] at decoded
    obtain ⟨bits, continuation, c, scalar, tail, read, ⟨⟩⟩ := decoded
    obtain ⟨small, byte⟩ := continuationBits_eq_some continuation
    obtain ⟨least, code⟩ := toNat_scalar scalar
    have encoded : String.utf8EncodeChar c = [a, b] := by
      simp only [String.utf8EncodeChar, show c.val.toNat = (a.toNat - 192) * 64 + bits from code]
      rw [if_neg (by omega), if_pos (by omega), byte]
      simp only [cons.injEq, and_true]
      exact ⟨ofNat_toNat_eq (by omega), congrArg UInt8.ofNat (by omega)⟩
    rw [encodeUtf8_cons, encoded, ih read]
    rfl
  | case6 a notAscii notLead notTwo lead b c rest ih =>
    simp only [bind_eq_bind, bind_eq_some_iff] at decoded
    obtain ⟨first, continuation, second, following, char, scalar, tail, read, ⟨⟩⟩ := decoded
    obtain ⟨small, byte⟩ := continuationBits_eq_some continuation
    obtain ⟨_, next⟩ := continuationBits_eq_some following
    obtain ⟨least, code⟩ := toNat_scalar scalar
    have encoded : String.utf8EncodeChar char = [a, b, c] := by
      simp only [String.utf8EncodeChar,
        show char.val.toNat = ((a.toNat - 224) * 64 + first) * 64 + second from code]
      rw [if_neg (by omega), if_neg (by omega), if_pos (by omega), byte, next]
      simp only [cons.injEq, and_true]
      exact ⟨ofNat_toNat_eq (by omega), congrArg UInt8.ofNat (by omega),
        congrArg UInt8.ofNat (by omega)⟩
    rw [encodeUtf8_cons, encoded, ih read]
    rfl
  | case8 a notAscii notLead notTwo notThree lead b c d rest ih =>
    simp only [bind_eq_bind, bind_eq_some_iff] at decoded
    obtain ⟨first, continuation, second, following, third, last, char, scalar, tail, read, ⟨⟩⟩ :=
      decoded
    obtain ⟨_, firstByte⟩ := continuationBits_eq_some continuation
    obtain ⟨_, secondByte⟩ := continuationBits_eq_some following
    obtain ⟨_, thirdByte⟩ := continuationBits_eq_some last
    obtain ⟨least, code⟩ := toNat_scalar scalar
    have encoded : String.utf8EncodeChar char = [a, b, c, d] := by
      simp only [String.utf8EncodeChar, show char.val.toNat =
        (((a.toNat - 240) * 64 + first) * 64 + second) * 64 + third from code]
      rw [if_neg (by omega), if_neg (by omega), if_neg (by omega), firstByte, secondByte, thirdByte]
      simp only [cons.injEq, and_true]
      exact ⟨ofNat_toNat_eq (by omega), congrArg UInt8.ofNat (by omega),
        congrArg UInt8.ofNat (by omega), congrArg UInt8.ofNat (by omega)⟩
    rw [encodeUtf8_cons, encoded, ih read]
    rfl
  | _ => cases decoded

theorem encodeUtf8_injective : Function.Injective encodeUtf8 := by
  intro left right same
  have decoded := decodeUtf8_encodeUtf8 left
  rw [same, decodeUtf8_encodeUtf8] at decoded
  exact (some.inj decoded).symm

theorem encodeUtf8_append (left right : List Char) :
    encodeUtf8 (left ++ right) = encodeUtf8 left ++ encodeUtf8 right :=
  flatMap_append

/-! ## ASCII -/

theorem utf8EncodeChar_ascii {c : Char} (ascii : c.toNat < 0x80) :
    String.utf8EncodeChar c = [UInt8.ofNat c.toNat] := by
  have one : c.val.toNat ≤ 0x7f := Nat.le_of_lt_succ ascii
  simp only [String.utf8EncodeChar, one]
  rfl

theorem length_encodeUtf8_ascii {text : List Char} (ascii : ∀ c ∈ text, c.toNat < 0x80) :
    (encodeUtf8 text).length = text.length := by
  induction text with
  | nil => rfl
  | cons c text ih =>
    rw [encodeUtf8_cons, utf8EncodeChar_ascii (ascii c (by simp)), length_append,
      ih fun c member => ascii c (by simp [member]), length_singleton, length_cons,
      Nat.add_comm]

theorem ofNat_ne_ofNat {byte : Nat} (ascii : n < 0x80) (large : 0x80 ≤ byte) (small : byte < 256) :
    UInt8.ofNat n ≠ UInt8.ofNat byte := by
  intro same
  have value := congrArg UInt8.toNat same
  rw [toNat_ofNat_of_lt small, toNat_ofNat_of_lt (by omega)] at value
  omega

theorem ascii_notMem_utf8EncodeChar {n : Nat} (ascii : n < 0x80) {c : Char}
    (other : c.toNat ≠ n) : UInt8.ofNat n ∉ String.utf8EncodeChar c := by
  have code : c.val.toNat = c.toNat := rfl
  simp only [String.utf8EncodeChar, code]
  by_cases one : c.toNat ≤ 0x7f
  · rw [if_pos one, mem_singleton]
    intro same
    have value := congrArg UInt8.toNat same
    rw [toNat_ofNat_of_lt (by omega), toNat_ofNat_of_lt (by omega)] at value
    exact other value.symm
  · rw [if_neg one]
    split_ifs <;> simp only [mem_cons, not_mem_nil, or_false, not_or]
    · exact ⟨ofNat_ne_ofNat ascii (by omega) (by omega), ofNat_ne_ofNat ascii (by omega) (by omega)⟩
    · exact ⟨ofNat_ne_ofNat ascii (by omega) (by omega), ofNat_ne_ofNat ascii (by omega) (by omega),
        ofNat_ne_ofNat ascii (by omega) (by omega)⟩
    · exact ⟨ofNat_ne_ofNat ascii (by omega) (by omega), ofNat_ne_ofNat ascii (by omega) (by omega),
        ofNat_ne_ofNat ascii (by omega) (by omega), ofNat_ne_ofNat ascii (by omega) (by omega)⟩

theorem ascii_notMem_encodeUtf8 {c : Char} (ascii : c.toNat < 0x80) {text : List Char}
    (absent : c ∉ text) : UInt8.ofNat c.toNat ∉ encodeUtf8 text := by
  intro member
  obtain ⟨_, held, encoded⟩ := mem_flatMap.mp member
  apply ascii_notMem_utf8EncodeChar ascii ?_ encoded
  intro same
  rw [Char.toNat_inj.mp same] at held
  exact absent held

theorem newline_notMem_encodeUtf8 {text : List Char} (unbroken : '\n' ∉ text) :
    (10 : UInt8) ∉ encodeUtf8 text :=
  ascii_notMem_encodeUtf8 (by decide) unbroken

/-- The bytes of a string. -/
def textBytes (text : String) : Bytes := text.toUTF8.data.toList

/-- The characters of a string. -/
def textChars (text : String) : List Char := (decodeUtf8 (textBytes text)).getD []

theorem textBytes_eq (text : String) : textBytes text = encodeUtf8 text.toList := by
  have bytes : text.toUTF8 = (encodeUtf8 text.toList).toByteArray :=
    String.utf8Encode_toList.symm
  rw [textBytes, bytes, toList_data_toByteArray]

theorem textBytes_append (left right : String) :
    textBytes (left ++ right) = textBytes left ++ textBytes right := by
  rw [textBytes_eq, textBytes_eq, textBytes_eq, String.toList_append, encodeUtf8_append]

theorem textBytes_injective : Function.Injective textBytes := by
  intro left right same
  rw [textBytes_eq, textBytes_eq] at same
  exact String.toList_injective (encodeUtf8_injective same)

@[simp] theorem textChars_eq (text : String) : textChars text = text.toList := by
  rw [textChars, textBytes_eq, decodeUtf8_encodeUtf8]
  rfl
