import Mathlib.Tactic

/-!
# SHA-1

The secure hash algorithm of FIPS 180-4 on strings of bits, with the most significant bit
first: padding, blocks and their words, the message schedule, the eighty steps and the digest.
-/

namespace Sha1

open List

/-! ## Bits and words -/

/-- The number that a string of bits spells. -/
def ofBits (bits : List Bool) : Nat :=
  bits.foldl (fun value bit => 2 * value + bit.toNat) 0

/-- The low bits of a number. -/
def bitsOf (width n : Nat) : List Bool :=
  (List.range width).map fun i => n.testBit (width - 1 - i)

def rotl (n word : UInt32) : UInt32 := word <<< n ||| word >>> (32 - n)

/-! ## Padding -/

theorem exists_zeros (length : Nat) : ∃ k, (length + 1 + k) % 512 = 448 :=
  ⟨959 - length % 512, by omega⟩

/-- The message, a one, the fewest zeros that leave 64 bits of a block, and the length. -/
def pad (message : List Bool) : List Bool :=
  message ++ [true] ++ List.replicate (Nat.find (exists_zeros message.length)) false ++
    bitsOf 64 message.length

/-- The pieces of a string of bits that have so many bits. -/
def piece (width : Nat) (bits : List Bool) (i : Nat) : List Bool := (bits.drop (width * i)).take width

/-! ## Blocks -/

/-- The words of the message schedule. -/
def schedule (block : List Bool) (t : Nat) : UInt32 :=
  if t < 16 then UInt32.ofNat (ofBits (piece 32 block t))
  else rotl 1 (schedule block (t - 3) ^^^ schedule block (t - 8) ^^^ schedule block (t - 14) ^^^
    schedule block (t - 16))

def ch (x y z : UInt32) : UInt32 := (x &&& y) ^^^ (~~~x &&& z)

def parity (x y z : UInt32) : UInt32 := x ^^^ y ^^^ z

def maj (x y z : UInt32) : UInt32 := (x &&& y) ^^^ (x &&& z) ^^^ (y &&& z)

def mix (t : Nat) : UInt32 → UInt32 → UInt32 → UInt32 :=
  if t ≤ 19 then ch else if t ≤ 39 then parity else if t ≤ 59 then maj else parity

def constant (t : Nat) : UInt32 :=
  if t ≤ 19 then 0x5A827999 else if t ≤ 39 then 0x6ED9EBA1 else if t ≤ 59 then 0x8F1BBCDC
  else 0xCA62C1D6

/-- Five words: the working variables, or the hash value. -/
structure Words where
  a : UInt32
  b : UInt32
  c : UInt32
  d : UInt32
  e : UInt32

def step (words : Nat → UInt32) (v : Words) (t : Nat) : Words :=
  ⟨rotl 5 v.a + mix t v.b v.c v.d + v.e + constant t + words t, v.a, rotl 30 v.b, v.c, v.d⟩

def compress (h : Words) (block : List Bool) : Words :=
  let v := (List.range 80).foldl (step (schedule block)) h
  ⟨v.a + h.a, v.b + h.b, v.c + h.c, v.d + h.d, v.e + h.e⟩

/-- The digest of a message, of 160 bits. -/
def digest (message : List Bool) : List Bool :=
  let padded := pad message
  let h := ((List.range (padded.length / 512)).map (piece 512 padded)).foldl compress
    ⟨0x67452301, 0xEFCDAB89, 0x98BADCFE, 0x10325476, 0xC3D2E1F0⟩
  [h.a, h.b, h.c, h.d, h.e].flatMap fun word => bitsOf 32 word.toNat

/-! ## Strings of bits -/

variable (bits : List Bool)

theorem ofBits_concat (bit : Bool) : ofBits (bits ++ [bit]) = 2 * ofBits bits + bit.toNat := by
  simp [ofBits]

theorem ofBits_append (more : List Bool) :
    ofBits (bits ++ more) = ofBits bits * 2 ^ more.length + ofBits more := by
  induction more using reverseRecOn with
  | nil => simp [ofBits]
  | append_singleton more bit ih =>
    rw [← append_assoc, ofBits_concat, ofBits_concat, ih, length_append, length_singleton]
    ring

theorem bitsOf_add (high low n : Nat) :
    bitsOf (high + low) n = bitsOf high (n / 2 ^ low) ++ bitsOf low n := by
  rw [bitsOf, range_add, map_append, map_map]
  congr 1
  · apply map_congr_left
    intro i member
    have small := mem_range.mp member
    rw [← Nat.shiftRight_eq_div_pow, Nat.testBit_shiftRight]
    congr 1
    omega
  · apply map_congr_left
    intro i member
    simp only [Function.comp_apply]
    congr 1
    omega

theorem length_bitsOf (width n : Nat) : (bitsOf width n).length = width := by
  simp [bitsOf]

theorem bitsOf_succ (width n : Nat) :
    bitsOf (width + 1) n = bitsOf width (n / 2) ++ [decide (n % 2 = 1)] := by
  simpa [bitsOf] using bitsOf_add width 1 n

theorem bitsOf_mod (width n : Nat) : bitsOf width (n % 2 ^ width) = bitsOf width n := by
  apply map_congr_left
  intro i member
  have small := mem_range.mp member
  rw [Nat.testBit_mod_two_pow, decide_eq_true (by omega), Bool.true_and]

theorem ofBits_bitsOf (width n : Nat) : ofBits (bitsOf width n) = n % 2 ^ width := by
  induction width generalizing n with
  | zero => simp [bitsOf, ofBits, Nat.mod_one]
  | succ width ih =>
    rw [bitsOf_succ, ofBits_concat, ih, pow_succ', Nat.mod_mul]
    rcases Nat.mod_two_eq_zero_or_one n with even | odd
    · simp [even]
    · simp [odd, Nat.add_comm]

/-! ## Bytes -/

/-- The bits of some bytes. -/
def ofBytes (bytes : List UInt8) : List Bool := bytes.flatMap fun byte => bitsOf 8 byte.toNat

variable (bytes : List UInt8)

theorem ofBytes_cons (byte : UInt8) :
    ofBytes (byte :: bytes) = bitsOf 8 byte.toNat ++ ofBytes bytes :=
  flatMap_cons

theorem ofBytes_append (more : List UInt8) : ofBytes (bytes ++ more) = ofBytes bytes ++ ofBytes more :=
  flatMap_append

theorem length_ofBytes : (ofBytes bytes).length = 8 * bytes.length := by
  induction bytes with
  | nil => rfl
  | cons byte bytes ih => simp [ofBytes_cons, ih, length_bitsOf, Nat.mul_add, Nat.add_comm]

theorem drop_ofBytes (count : Nat) :
    (ofBytes bytes).drop (8 * count) = ofBytes (bytes.drop count) := by
  induction count generalizing bytes with
  | zero => rfl
  | succ count ih =>
    cases bytes with
    | nil => rfl
    | cons byte bytes =>
      rw [ofBytes_cons, Nat.mul_succ, Nat.add_comm, ← drop_drop,
        drop_left' (length_bitsOf 8 _), ih, drop_succ_cons]

theorem take_ofBytes (count : Nat) :
    (ofBytes bytes).take (8 * count) = ofBytes (bytes.take count) := by
  induction count generalizing bytes with
  | zero => rfl
  | succ count ih =>
    cases bytes with
    | nil => rfl
    | cons byte bytes =>
      rw [ofBytes_cons, Nat.mul_succ, take_append, take_of_length_le, length_bitsOf,
        Nat.add_sub_cancel, ih, take_succ_cons, ofBytes_cons]
      rw [length_bitsOf]
      omega

theorem piece_ofBytes (width i : Nat) :
    piece (8 * width) (ofBytes bytes) i = ofBytes ((bytes.drop (width * i)).take width) := by
  rw [piece, Nat.mul_assoc, drop_ofBytes, take_ofBytes]

theorem ofBits_ofBytes_concat (byte : UInt8) :
    ofBits (ofBytes (bytes ++ [byte])) = ofBits (ofBytes bytes) * 2 ^ 8 + byte.toNat := by
  have single : ofBytes [byte] = bitsOf 8 byte.toNat := append_nil _
  rw [ofBytes_append, ofBits_append, single, length_bitsOf, ofBits_bitsOf,
    Nat.mod_eq_of_lt byte.toNat_lt]

/-- The low bytes of a number. -/
def beBytes : Nat → Nat → List UInt8
  | 0, _ => []
  | count + 1, n => UInt8.ofNat (n / 2 ^ (8 * count)) :: beBytes count n

theorem ofBytes_beBytes (count n : Nat) : ofBytes (beBytes count n) = bitsOf (8 * count) n := by
  induction count with
  | zero => rfl
  | succ count ih =>
    rw [beBytes, ofBytes_cons, ih, Nat.mul_succ, Nat.add_comm, bitsOf_add, UInt8.toNat_ofNat',
      bitsOf_mod]

theorem ofBytes_zeros (count : Nat) :
    ofBytes (replicate count 0) = replicate (8 * count) false := by
  induction count with
  | zero => rfl
  | succ count ih =>
    rw [replicate_succ, ofBytes_cons, ih, Nat.mul_succ, Nat.add_comm, ← replicate_append_replicate]
    rfl

end Sha1
