import Mcps.Lib.Numeral
import Mcps.Lib.Result

/-!
# IPv4 addresses and their spellings

An IPv4 address is four octets, or one number of 32 bits.  Its dotted decimal is only one of
the texts that `inet_aton` takes for it: there may be fewer than four parts, the last one
holding all the low-order octets, and each part may be decimal, octal or hexadecimal.
-/

namespace Inet

open Numeral

/-- `std::net::Ipv4Addr`. -/
@[ext] structure Ipv4Addr where
  a : UInt8
  b : UInt8
  c : UInt8
  d : UInt8
  deriving DecidableEq, Repr

namespace Ipv4Addr

/-- The octets of a number, the highest first. -/
def ofBits (bits : UInt32) : Ipv4Addr :=
  ⟨(bits >>> 24).toUInt8, (bits >>> 16).toUInt8, (bits >>> 8).toUInt8, bits.toUInt8⟩

theorem toNat_ofBits (bits : UInt32) :
    (ofBits bits).a.toNat = bits.toNat / 2 ^ 24 ∧
      (ofBits bits).b.toNat = bits.toNat / 2 ^ 16 % 2 ^ 8 ∧
      (ofBits bits).c.toNat = bits.toNat / 2 ^ 8 % 2 ^ 8 ∧
      (ofBits bits).d.toNat = bits.toNat % 2 ^ 8 := by
  have small := bits.toNat_lt
  have highest : bits.toNat / 2 ^ 24 % 2 ^ 8 = bits.toNat / 2 ^ 24 := by omega
  rw [← highest]
  simp [ofBits, Nat.shiftRight_eq_div_pow]

def isLoopback (address : Ipv4Addr) : Bool := address.a = 127

def isPrivate (address : Ipv4Addr) : Bool :=
  address.a = 10 || (address.a = 172 && address.b ≥ 16 && address.b ≤ 31) ||
    (address.a = 192 && address.b = 168)

def isLinkLocal (address : Ipv4Addr) : Bool := address.a = 169 && address.b = 254

def isUnspecified (address : Ipv4Addr) : Bool := address = ⟨0, 0, 0, 0⟩

def isBroadcast (address : Ipv4Addr) : Bool := address = ⟨255, 255, 255, 255⟩

def isMulticast (address : Ipv4Addr) : Bool := address.a ≥ 224 && address.a ≤ 239

end Ipv4Addr

/-- `std::net::Ipv6Addr`: eight segments of 16 bits. -/
structure Ipv6Addr where
  segments : Vector UInt16 8
  deriving DecidableEq

namespace Ipv6Addr

def isLoopback (address : Ipv6Addr) : Bool := address.segments = #v[0, 0, 0, 0, 0, 0, 0, 1]

def isUnspecified (address : Ipv6Addr) : Bool := address.segments = Vector.replicate 8 0

def isMulticast (address : Ipv6Addr) : Bool := address.segments[0] &&& 0xff00 = 0xff00

/-- The address inside an IPv4-mapped or IPv4-compatible one. -/
def toIpv4 (address : Ipv6Addr) : Option Ipv4Addr :=
  match address.segments.toList with
  | [0, 0, 0, 0, 0, kind, ab, cd] =>
    if kind = 0 || kind = 0xffff then
      some ⟨(ab >>> 8).toUInt8, ab.toUInt8, (cd >>> 8).toUInt8, cd.toUInt8⟩
    else none
  | _ => none

end Ipv6Addr

inductive IpAddr where
  | v4 (address : Ipv4Addr)
  | v6 (address : Ipv6Addr)
  deriving DecidableEq

/-! ## Dotted decimal -/

/-- An octet as `std` reads it: up to three decimal digits without a leading zero. -/
def strictOctet (part : List Char) : Option UInt8 :=
  if part.length > 3 || (part.length > 1 && part.head? = some '0') ||
      part.any (!·.isDigit) then none
  else (parseUnsigned 256 part).map UInt8.ofNat

/-- `Ipv4Addr::from_str`. -/
def parseIpv4 (text : List Char) : Option Ipv4Addr :=
  match (text.splitOn '.').mapM strictOctet with
  | some [a, b, c, d] => some ⟨a, b, c, d⟩
  | _ => none

/-! ## Spellings -/

/-- How `inet_aton` takes one part: decimal, octal behind a zero, hexadecimal behind `0x`. -/
inductive PartSpells (value : Nat) : List Char → Prop
  | decimal {digits : List Char} (spells : RadixSpells 10 value digits)
      (plain : digits.head? ≠ some '0' ∨ digits = ['0']) : PartSpells value digits
  | octal {digits : List Char} (spells : RadixSpells 8 value digits) :
      PartSpells value ('0' :: digits)
  | hexadecimal {digits : List Char} {letter : Char} (marked : letter = 'x' ∨ letter = 'X')
      (spells : RadixSpells 16 value digits) : PartSpells value ('0' :: letter :: digits)

/-- The values of so many parts: an octet each, and the last one all that remains. -/
def partValues (address : UInt32) : Nat → List Nat
  | 1 => [address.toNat]
  | 2 => [address.toNat / 2 ^ 24, address.toNat % 2 ^ 24]
  | 3 => [address.toNat / 2 ^ 24, address.toNat / 2 ^ 16 % 2 ^ 8, address.toNat % 2 ^ 16]
  | 4 => [address.toNat / 2 ^ 24, address.toNat / 2 ^ 16 % 2 ^ 8, address.toNat / 2 ^ 8 % 2 ^ 8,
      address.toNat % 2 ^ 8]
  | _ => []

/-- A text that `inet_aton` takes for an address. -/
def Spells (address : UInt32) (text : List Char) : Prop :=
  ∃ (count : Nat) (parts : List (List Char)), 1 ≤ count ∧ count ≤ 4 ∧
    List.Forall₂ PartSpells (partValues address count) parts ∧ text = ['.'].intercalate parts

theorem PartSpells.notMem {value : Nat} {part : List Char} (spells : PartSpells value part)
    {c : Char} (noDigit : ∀ radix, toDigit radix c = none) : c ∉ part := by
  have absent {radix : Nat} {digits : List Char} (spells : RadixSpells radix value digits) :
      c ∉ digits := by
    intro member
    have digit := spells.digits c member
    rw [noDigit radix] at digit
    cases digit
  have notZero : c ≠ '0' := by
    intro zero
    exact absurd (noDigit 10) (by rw [zero]; decide)
  have noMark : c ≠ 'x' ∧ c ≠ 'X' := by
    constructor
    · intro mark
      exact absurd (noDigit 36) (by rw [mark]; decide)
    · intro mark
      exact absurd (noDigit 36) (by rw [mark]; decide)
  cases spells with
  | decimal spells _ => exact absent spells
  | octal spells => simp [absent spells, notZero]
  | hexadecimal marked spells =>
    rcases marked with rfl | rfl <;> simp [absent spells, notZero, noMark]

theorem mem_intercalate_singleton {separator c : Char} {parts : List (List Char)}
    (member : c ∈ [separator].intercalate parts) :
    c = separator ∨ ∃ part ∈ parts, c ∈ part := by
  induction parts with
  | nil => cases member
  | cons part parts ih =>
    cases parts with
    | nil =>
      rw [List.intercalate_singleton] at member
      exact .inr ⟨part, List.mem_cons_self, member⟩
    | cons next parts =>
      rw [List.intercalate_cons_cons, List.mem_append, List.mem_append,
        List.mem_singleton] at member
      rcases member with (here | same) | later
      · exact .inr ⟨part, List.mem_cons_self, here⟩
      · exact .inl same
      · rcases ih later with same | ⟨other, held, inside⟩
        · exact .inl same
        · exact .inr ⟨other, List.mem_cons_of_mem part held, inside⟩

theorem forall_part {property : List Char → Prop}
    (every : ∀ {value : Nat} {part : List Char}, PartSpells value part → property part)
    {values : List Nat} {parts : List (List Char)}
    (spells : List.Forall₂ PartSpells values parts) : ∀ part ∈ parts, property part :=
  ((List.forall₂_and_left parts values).mp
    (spells.flip.imp fun _ _ spells => ⟨every spells, spells⟩)).1

theorem Spells.notMem {address : UInt32} {text : List Char} (spells : Spells address text)
    {c : Char} (noDot : c ≠ '.') (noDigit : ∀ radix, toDigit radix c = none) : c ∉ text := by
  obtain ⟨_, _, _, _, each, same⟩ := spells
  intro member
  rw [same] at member
  rcases mem_intercalate_singleton member with dot | ⟨part, held, inside⟩
  · exact noDot dot
  · exact forall_part (fun spells => spells.notMem noDigit) each part held inside

/-! ## Dotted decimal is a spelling -/

theorem partSpells_of_strictOctet {part : List Char} {octet : UInt8}
    (read : strictOctet part = some octet) : PartSpells octet.toNat part := by
  rw [strictOctet, Option.ite_none_left_eq_some] at read
  obtain ⟨strict, read⟩ := read
  obtain ⟨_, parsed, same⟩ := Option.map_eq_some_iff.mp read
  simp only [Bool.or_eq_true, Bool.and_eq_true, decide_eq_true_eq, not_or, not_and,
    List.any_eq_true, Bool.not_eq_true', not_exists, Bool.not_eq_false] at strict
  obtain ⟨⟨_, unmarked⟩, digits⟩ := strict
  have nonempty : part ≠ [] := by
    intro empty
    rw [empty] at parsed
    cases parsed
  rw [parseUnsigned_digits 256 nonempty digits, Option.ite_none_right_eq_some] at parsed
  obtain ⟨small, number⟩ := parsed
  cases number
  have octetValue : octet.toNat = Nat.ofDigitChars 10 part 0 := by
    rw [← same, UInt8.toNat_ofNat', Nat.mod_eq_of_lt small]
  rw [octetValue]
  apply PartSpells.decimal (radixSpells_decimal nonempty digits)
  by_cases zero : part.head? = some '0'
  · obtain ⟨rest, cut⟩ := List.head?_eq_some_iff.mp zero
    have single : rest = [] := by
      by_contra more
      apply unmarked ?_ zero
      rw [cut, List.length_cons]
      have length := List.length_pos_iff.mpr more
      omega
    exact .inr (by rw [cut, single])
  · exact .inl zero

theorem exists_bits (v4 : Ipv4Addr) :
    ∃ address, Ipv4Addr.ofBits address = v4 ∧
      partValues address 4 = [v4.a.toNat, v4.b.toNat, v4.c.toNat, v4.d.toNat] := by
  obtain ⟨a, b, c, d⟩ := v4
  have sizes := And.intro a.toNat_lt (And.intro b.toNat_lt (And.intro c.toNat_lt d.toNat_lt))
  let number := a.toNat * 2 ^ 24 + b.toNat * 2 ^ 16 + c.toNat * 2 ^ 8 + d.toNat
  have bits : (UInt32.ofNat number).toNat = number := by
    rw [UInt32.toNat_ofNat']
    omega
  have same : Ipv4Addr.ofBits (UInt32.ofNat number) = ⟨a, b, c, d⟩ := by
    have octets := Ipv4Addr.toNat_ofBits (UInt32.ofNat number)
    apply Ipv4Addr.ext <;> apply UInt8.toNat_inj.mp <;> simp only [octets] <;> omega
  obtain ⟨first, second, third, fourth⟩ := Ipv4Addr.toNat_ofBits (UInt32.ofNat number)
  refine ⟨UInt32.ofNat number, same, ?_⟩
  rw [partValues, ← first, ← second, ← third, ← fourth, same]

theorem spells_of_parseIpv4 {text : List Char} {v4 : Ipv4Addr} (read : parseIpv4 text = some v4) :
    ∃ address, Ipv4Addr.ofBits address = v4 ∧ Spells address text := by
  obtain ⟨address, same, values⟩ := exists_bits v4
  refine ⟨address, same, 4, text.splitOn '.', by decide, by decide, ?_,
    (List.intercalate_splitOn '.').symm⟩
  rw [values]
  unfold parseIpv4 at read
  split at read
  · rename_i octets
    cases read
    have each := (Option.mapM_eq_some.mp octets).flip.imp
      fun octet part read => partSpells_of_strictOctet read
    exact List.forall₂_map_left_iff.mpr each
  · cases read

/-! ## Blocks -/

/-- The addresses that share so many of their first bits with a number. -/
structure Block where
  base : Nat
  bits : Nat

def Block.Holds (block : Block) (address : UInt32) : Prop :=
  address.toNat / 2 ^ (32 - block.bits) = block.base / 2 ^ (32 - block.bits)

instance (block : Block) (address : UInt32) : Decidable (block.Holds address) :=
  inferInstanceAs (Decidable (_ = _))

namespace Ipv4Addr

variable (address : UInt32)

theorem isLoopback_ofBits :
    (ofBits address).isLoopback = true ↔ Block.Holds ⟨127 * 2 ^ 24, 8⟩ address := by
  simp only [isLoopback, decide_eq_true_eq, ← UInt8.toNat_inj, (toNat_ofBits address).1,
    UInt8.reduceToNat, Block.Holds]
  omega

theorem isPrivate_ofBits :
    (ofBits address).isPrivate = true ↔ Block.Holds ⟨10 * 2 ^ 24, 8⟩ address ∨
      Block.Holds ⟨172 * 2 ^ 24 + 16 * 2 ^ 16, 12⟩ address ∨
      Block.Holds ⟨192 * 2 ^ 24 + 168 * 2 ^ 16, 16⟩ address := by
  obtain ⟨_, _, _⟩ := toNat_ofBits address
  simp only [isPrivate, Bool.or_eq_true, Bool.and_eq_true, decide_eq_true_eq, ← UInt8.toNat_inj, UInt8.le_iff_toNat_le, UInt8.reduceToNat, Block.Holds]
  omega

theorem isLinkLocal_ofBits :
    (ofBits address).isLinkLocal = true ↔
      Block.Holds ⟨169 * 2 ^ 24 + 254 * 2 ^ 16, 16⟩ address := by
  obtain ⟨_, _, _⟩ := toNat_ofBits address
  simp only [isLinkLocal, Bool.and_eq_true, decide_eq_true_eq, ← UInt8.toNat_inj,
    UInt8.reduceToNat, Block.Holds]
  omega

theorem isUnspecified_ofBits :
    (ofBits address).isUnspecified = true ↔ Block.Holds ⟨0, 32⟩ address := by
  simp only [isUnspecified, decide_eq_true_eq, Ipv4Addr.ext_iff, ← UInt8.toNat_inj,
    toNat_ofBits address, UInt8.reduceToNat, Block.Holds]
  omega

theorem isBroadcast_ofBits :
    (ofBits address).isBroadcast = true ↔ Block.Holds ⟨2 ^ 32 - 1, 32⟩ address := by
  simp only [isBroadcast, decide_eq_true_eq, Ipv4Addr.ext_iff, ← UInt8.toNat_inj,
    toNat_ofBits address, UInt8.reduceToNat, Block.Holds]
  omega

theorem isMulticast_ofBits :
    (ofBits address).isMulticast = true ↔ Block.Holds ⟨224 * 2 ^ 24, 4⟩ address := by
  simp only [isMulticast, Bool.and_eq_true, decide_eq_true_eq,
    UInt8.le_iff_toNat_le, (toNat_ofBits address).1, UInt8.reduceToNat, Block.Holds]
  omega

end Ipv4Addr

end Inet
