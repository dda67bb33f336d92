import Mcps.Lib.Inet
import Mcps.Proxy.ReverseProxy

/-!
# Which responder a certificate may name

The URL of the OCSP responder comes out of the client's own certificate, so before anything
is fetched from it the proxy looks at its scheme and its host.  A host that is an address is
taken by the address, in whatever way it is spelled: `std` reads dotted decimal and IPv6
only, and what it does not read is tried once more as `inet_aton` would read it.
-/

namespace Mcps.Proxy

open Inet List Option

/-! ## Addresses -/

def ipv4IsPublic (v4 : Ipv4Addr) : Bool :=
  !(v4.isLoopback || v4.isPrivate || v4.isLinkLocal || v4.isUnspecified || v4.isBroadcast ||
    v4.isMulticast)

def ipv6IsPublic (v6 : Ipv6Addr) : Bool :=
  if v6.isLoopback || v6.isUnspecified || v6.isMulticast then false
  else
    match v6.toIpv4 with
    | some v4 => ipv4IsPublic v4
    | none =>
      let segs := v6.segments
      !(segs.head &&& 0xffc0 = 0xfe80 || segs.head &&& 0xfe00 = 0xfc00)

def resolvedIpIsPublic : IpAddr → Bool
  | .v4 v4 => ipv4IsPublic v4
  | .v6 v6 => ipv6IsPublic v6

/-! ## Loose spellings -/

/-- The radix of a part, and the digits behind its mark. -/
def partRadix : List Char → Nat × List Char
  | '0' :: 'x' :: hex => (16, hex)
  | '0' :: 'X' :: hex => (16, hex)
  | '0' :: c :: rest => (8, c :: rest)
  | part => (10, part)

def parseInetAtonPart (part : List Char) : Option Nat :=
  let (radix, digits) := partRadix part
  if digits.isEmpty then none
  else if !digits.all (fun c => (Numeral.toDigit radix c).isSome) then none
  else Numeral.fromStrRadix (2 ^ 64) radix digits

/-- How much the last of so many parts may hold. -/
def maxLast : Nat → Option Nat
  | 1 => some 0xffffffff
  | 2 => some 0x00ffffff
  | 3 => some 0x0000ffff
  | 4 => some 0x000000ff
  | _ => none

/-- The address of its parts. -/
def packParts : List Nat → Option UInt32
  | [last] => some (UInt32.ofNat last)
  | [a, last] => some (UInt32.ofNat a <<< 24 ||| UInt32.ofNat last)
  | [a, b, last] => some (UInt32.ofNat a <<< 24 ||| UInt32.ofNat b <<< 16 ||| UInt32.ofNat last)
  | [a, b, c, last] =>
    some (UInt32.ofNat a <<< 24 ||| UInt32.ofNat b <<< 16 ||| UInt32.ofNat c <<< 8 |||
      UInt32.ofNat last)
  | _ => none

def parseInetAtonIpv4 (host : List Char) : Option Ipv4Addr :=
  if host.isEmpty then none
  else
    let parts := host.splitOn '.'
    if parts.length > 4 then none
    else do
      let vals ← parts.mapM parseInetAtonPart
      if vals.dropLast.any (· > 0xff) then none
      else
        let last := vals.getLast?.getD 0
        let most ← maxLast vals.length
        if last > most then none
        else (packParts vals).map Ipv4Addr.ofBits

/-! ## Hosts -/

section

variable (parseIpv6 : List Char → Option Ipv6Addr)

/-- `IpAddr::from_str`, given how `std` reads an IPv6 literal. -/
def parseIpAddr (text : List Char) : Option IpAddr :=
  match parseIpv4 text with
  | some v4 => some (.v4 v4)
  | none => (parseIpv6 text).map .v6

def hostIsPublic (host : List Char) : Bool :=
  if host.isEmpty || (host.splitOn '.').any List.isEmpty then false
  else if toAsciiLowercase host = "localhost".toList then false
  else
    match parseIpAddr parseIpv6 host with
    | some (.v4 v4) => ipv4IsPublic v4
    | some (.v6 v6) => ipv6IsPublic v6
    | none =>
      match parseInetAtonIpv4 host with
      | some v4 => ipv4IsPublic v4
      | none => true

/-! ## URLs -/

/-- `str::split_once("://")`, of which only the second half is used. -/
def afterScheme : List Char → Option (List Char)
  | ':' :: '/' :: '/' :: rest => some rest
  | _ :: rest => afterScheme rest
  | [] => none

def responderSchemeAllowed (url : List Char) : Bool :=
  match splitOnce ':' url with
  | some (scheme, _) =>
    toAsciiLowercase scheme = "http".toList || toAsciiLowercase scheme = "https".toList
  | none => false

def extractUrlHost (url : List Char) : Option (List Char) := do
  let rest ← afterScheme url
  let authority := rest.takeWhile (· ∉ ['/', '?', '#'])
  match (authority.splitOn '@').getLastD authority with
  | [] => none
  | '[' :: rest => if ']' ∈ rest then some (rest.takeWhile (· ≠ ']')) else none
  | hostport =>
    let host := hostport.takeWhile (· ≠ ':')
    if host.isEmpty then none else some host

def aiaResponderUrlIsSafe (url : List Char) : Bool :=
  if !responderSchemeAllowed url then false
  else
    match extractUrlHost url with
    | some host => hostIsPublic parseIpv6 host
    | none => false

/-- What the resolver of the fetch returns, given what the system's resolver found: nothing
when there is no address, or when one of them is not public. -/
def resolveVetted (addresses : List IpAddr) : Option (List IpAddr) :=
  if addresses.isEmpty || addresses.any (!resolvedIpIsPublic ·) then none else some addresses

end

/-! ## Reading a spelling -/

variable {part : List Char} {value : Nat}

theorem parseInetAtonPart_eq {digits : List Char} {radix : Nat}
    (marked : partRadix part = (radix, digits)) (spells : Numeral.RadixSpells radix value digits)
    (fits : value < 2 ^ 64) : parseInetAtonPart part = some value := by
  have every : digits.all (fun c => (Numeral.toDigit radix c).isSome) = true :=
    all_eq_true.mpr spells.digits
  rw [parseInetAtonPart, marked]
  simp only [List.isEmpty_iff, spells.nonempty, every]
  exact Numeral.fromStrRadix_of_spells spells fits

theorem partRadix_decimal (unmarked : part.head? ≠ some '0') : partRadix part = (10, part) := by
  unfold partRadix
  split
  · exact absurd rfl unmarked
  · exact absurd rfl unmarked
  · exact absurd rfl unmarked
  · rfl

theorem partRadix_octal {c : Char} (digit : (Numeral.toDigit 8 c).isSome) (rest : List Char) :
    partRadix ('0' :: c :: rest) = (8, c :: rest) := by
  have noMark : c ≠ 'x' ∧ c ≠ 'X' := by
    constructor
    · intro mark
      subst mark
      exact absurd digit (by decide)
    · intro mark
      subst mark
      exact absurd digit (by decide)
  simp [partRadix, noMark]

theorem parseInetAtonPart_of_spells (spells : PartSpells value part) (fits : value < 2 ^ 64) :
    parseInetAtonPart part = some value := by
  cases spells with
  | decimal spells plain =>
    apply parseInetAtonPart_eq ?_ spells fits
    rcases plain with unmarked | zero
    · exact partRadix_decimal unmarked
    · rw [zero]
      rfl
  | @octal digits spells =>
    apply parseInetAtonPart_eq ?_ spells fits
    obtain ⟨c, rest, same⟩ := exists_cons_of_ne_nil spells.nonempty
    subst same
    exact partRadix_octal (spells.digits c mem_cons_self) rest
  | hexadecimal marked spells =>
    apply parseInetAtonPart_eq ?_ spells fits
    rcases marked with rfl | rfl <;> rfl

theorem partValues_lt {address : UInt32} {count value : Nat}
    (member : value ∈ partValues address count) : value < 2 ^ 32 := by
  have small := address.toNat_lt
  unfold partValues at member
  split at member <;> simp only [mem_cons, not_mem_nil, or_false] at member <;> omega

variable (address : UInt32)

theorem partValues_fit {count : Nat} (least : 1 ≤ count) (most : count ≤ 4) :
    (∀ value ∈ (partValues address count).dropLast, value ≤ 0xff) ∧
      ∃ last room, (partValues address count).getLast? = some last ∧ last ≤ room ∧
        maxLast (partValues address count).length = some room := by
  have small := address.toNat_lt
  interval_cases count
  all_goals
    refine ⟨?_, _, _, rfl, ?_, rfl⟩
    · simp only [partValues, dropLast_cons_cons, dropLast_singleton,
        forall_mem_cons, not_mem_nil, false_implies, implies_true, and_true] <;> omega
    · simp only [getLast_cons_cons, getLast_singleton]
      omega

theorem shift_or (shift : UInt32) (width : Nat) (amount : shift = UInt32.ofNat width)
    (narrow : width < 32) {high low : Nat} (below : low < 2 ^ width) :
    UInt32.ofNat high <<< shift ||| UInt32.ofNat low = UInt32.ofNat (high * 2 ^ width + low) := by
  rw [Nat.mul_comm, Nat.two_pow_add_eq_or_of_lt below, Nat.mul_comm, ← Nat.shiftLeft_eq,
    UInt32.ofNat_or, UInt32.ofNat_shiftLeft _ _ narrow, amount]

theorem packParts_partValues {count : Nat} (least : 1 ≤ count) (most : count ≤ 4) :
    packParts (partValues address count) = some address := by
  have whole {n : Nat} (same : n = address.toNat) : some (UInt32.ofNat n) = some address := by
    rw [same, UInt32.ofNat_toNat]
  interval_cases count
  case «1» => exact whole rfl
  case «2» =>
    simp only [partValues, packParts]
    rw [shift_or 24 24 rfl (by decide) (by omega)]
    exact whole (by omega)
  case «3» =>
    simp only [partValues, packParts, UInt32.or_assoc]
    rw [shift_or 16 16 rfl (by decide) (by omega), shift_or 24 24 rfl (by decide) (by omega)]
    exact whole (by omega)
  case «4» =>
    simp only [partValues, packParts, UInt32.or_assoc]
    rw [shift_or 8 8 rfl (by decide) (by omega), shift_or 16 16 rfl (by decide) (by omega),
      shift_or 24 24 rfl (by decide) (by omega)]
    exact whole (by omega)

variable {host : List Char}

theorem parseInetAtonIpv4_of_vals {vals : List Nat} {last most : Nat} {address : UInt32}
    (nonempty : host ≠ []) (few : (host.splitOn '.').length ≤ 4)
    (read : (host.splitOn '.').mapM parseInetAtonPart = some vals)
    (octets : ∀ value ∈ vals.dropLast, value ≤ 0xff) (ends : vals.getLast? = some last)
    (room : maxLast vals.length = some most) (fits : last ≤ most)
    (packed : packParts vals = some address) : parseInetAtonIpv4 host = some (.ofBits address) := by
  simp only [parseInetAtonIpv4, List.isEmpty_iff, nonempty, Nat.not_lt.mpr few, read]
  simpa [room, ends, packed, Nat.not_lt.mpr fits] using octets

theorem parseInetAtonIpv4_of_spells {address : UInt32} {text : List Char}
    (spells : Spells address text) : parseInetAtonIpv4 text = some (.ofBits address) := by
  obtain ⟨count, parts, least, most, each, same⟩ := spells
  have length : (partValues address count).length = count := by
    interval_cases count <;> rfl
  have partCount : parts.length = count := each.length_eq.symm.trans length
  have nonempty : parts ≠ [] := by
    intro empty
    rw [empty] at partCount
    exact absurd partCount.symm (Nat.ne_of_gt least)
  have dotless : ∀ part ∈ parts, '.' ∉ part :=
    forall_part (fun spells => spells.notMem (by simp [Numeral.toDigit])) each
  have cut : text.splitOn '.' = parts := by
    rw [same]
    exact splitOn_intercalate '.' dotless nonempty
  have read : parts.mapM parseInetAtonPart = some (partValues address count) := by
    apply mapM_eq_some.mpr
    have bounded := (forall₂_and_left _ parts).mpr
      ⟨fun value member => @partValues_lt address count value member, each⟩
    refine bounded.flip.imp fun part value both => ?_
    exact parseInetAtonPart_of_spells both.2 (both.1.trans (by decide))
  rw [← cut] at read partCount
  have written : text ≠ [] := by
    intro empty
    rw [empty] at read
    cases read
  have packed := packParts_partValues address least most
  obtain ⟨octets, _, _, ends, fits, known⟩ := partValues_fit address least most
  exact parseInetAtonIpv4_of_vals written (by omega) read octets ends known fits packed

variable {v4 : Ipv4Addr}

theorem parseInetAtonIpv4_of_parseIpv4 {text : List Char} (read : parseIpv4 text = some v4) :
    parseInetAtonIpv4 text = some v4 := by
  obtain ⟨_, same, spells⟩ := spells_of_parseIpv4 read
  rw [← same]
  exact parseInetAtonIpv4_of_spells spells

/-! ## Hosts that are addresses -/

theorem exists_isDigit_of_parseInetAtonPart (read : parseInetAtonPart part = some value) :
    ∃ c rest, part = c :: rest ∧ c.isDigit = true := by
  unfold parseInetAtonPart partRadix at read
  split at read
  rename_i radix digits marked
  split at marked
  · exact ⟨'0', _, rfl, rfl⟩
  · exact ⟨'0', _, rfl, rfl⟩
  · exact ⟨'0', _, rfl, rfl⟩
  · cases marked
    rw [ite_none_left_eq_some, ite_none_left_eq_some] at read
    obtain ⟨nonempty, every, _⟩ := read
    obtain ⟨c, rest, same⟩ := exists_cons_of_ne_nil (mt isEmpty_iff.mpr nonempty)
    subst same
    refine ⟨c, rest, rfl, Numeral.isDigit_of_toDigit ?_⟩
    rw [Bool.not_eq_true, Bool.not_eq_false', all_cons, Bool.and_eq_true] at every
    exact every.1

theorem exists_vals_of_parseInetAtonIpv4 (read : parseInetAtonIpv4 host = some v4) :
    host ≠ [] ∧ ∃ vals, (host.splitOn '.').mapM parseInetAtonPart = some vals := by
  rw [parseInetAtonIpv4, ite_none_left_eq_some, ite_none_left_eq_some] at read
  obtain ⟨nonempty, _, read⟩ := read
  obtain ⟨vals, each, _⟩ := bind_eq_some_iff.mp read
  exact ⟨mt isEmpty_iff.mpr nonempty, vals, each⟩

theorem part_ne_nil_of_parseInetAtonIpv4 (read : parseInetAtonIpv4 host = some v4)
    (member : part ∈ host.splitOn '.') : part ≠ [] := by
  obtain ⟨_, vals, each⟩ := exists_vals_of_parseInetAtonIpv4 read
  have every := ((forall₂_and_left _ vals).mp
    ((mapM_eq_some.mp each).imp fun _ _ read =>
      ⟨exists_isDigit_of_parseInetAtonPart read, read⟩)).1
  obtain ⟨c, rest, same, _⟩ := every part member
  rw [same]
  exact cons_ne_nil c rest

theorem not_localhost_of_parseInetAtonIpv4 (read : parseInetAtonIpv4 host = some v4) :
    toAsciiLowercase host ≠ "localhost".toList := by
  obtain ⟨_, _, each⟩ := exists_vals_of_parseInetAtonIpv4 read
  intro named
  have whole : host.splitOn '.' = [host] := by
    apply splitOn_eq_singleton
    intro dot
    have lowered : '.' ∈ toAsciiLowercase host := mem_map_of_mem (f := Char.toLower) dot
    rw [named] at lowered
    exact absurd lowered (by decide)
  rw [whole] at each
  obtain ⟨_, _, first, _⟩ := forall₂_cons_left_iff.mp (mapM_eq_some.mp each)
  obtain ⟨c, _, same, digit⟩ := exists_isDigit_of_parseInetAtonPart first
  rw [same] at named
  have letter : c.toLower = 'l' := (cons.inj named).1
  have bounds := Numeral.toNat_of_isDigit digit
  rw [← Char.ofNat_toNat c] at letter
  generalize c.toNat = n at bounds letter
  obtain ⟨_, _⟩ := bounds
  interval_cases n <;> exact absurd letter (by decide)

theorem hostIsPublic_of_parseInetAtonIpv4 {parseIpv6 : List Char → Option Ipv6Addr}
    (notIpv6 : parseIpv6 host = none) (read : parseInetAtonIpv4 host = some v4) :
    hostIsPublic parseIpv6 host = ipv4IsPublic v4 := by
  have notEmpty : host.isEmpty = false :=
    isEmpty_eq_false_iff.mpr (exists_vals_of_parseInetAtonIpv4 read).1
  have labels : (host.splitOn '.').any isEmpty = false := by
    rw [List.any_eq_false]
    intro part member
    rw [List.isEmpty_iff]
    exact part_ne_nil_of_parseInetAtonIpv4 read member
  have notLocal := not_localhost_of_parseInetAtonIpv4 read
  rw [hostIsPublic, notEmpty, labels, if_neg notLocal, parseIpAddr]
  cases strict : parseIpv4 host with
  | none =>
    rw [notIpv6, read]
    rfl
  | some found =>
    cases (parseInetAtonIpv4_of_parseIpv4 strict).symm.trans read
    rfl

/-! ## Blocks that are not public -/

/-- Loopback, private, link-local, unspecified, broadcast and multicast addresses. -/
def reservedBlocks : List Block :=
  [⟨127 * 2 ^ 24, 8⟩, ⟨10 * 2 ^ 24, 8⟩, ⟨172 * 2 ^ 24 + 16 * 2 ^ 16, 12⟩,
    ⟨192 * 2 ^ 24 + 168 * 2 ^ 16, 16⟩, ⟨169 * 2 ^ 24 + 254 * 2 ^ 16, 16⟩, ⟨0, 32⟩,
    ⟨2 ^ 32 - 1, 32⟩, ⟨224 * 2 ^ 24, 4⟩]

theorem ipv4IsPublic_iff :
    ipv4IsPublic (.ofBits address) = true ↔ ∀ block ∈ reservedBlocks, ¬block.Holds address := by
  simp only [ipv4IsPublic, Bool.not_eq_true', ← Bool.not_eq_true, Bool.or_eq_true,
    Ipv4Addr.isLoopback_ofBits, Ipv4Addr.isPrivate_ofBits, Ipv4Addr.isLinkLocal_ofBits,
    Ipv4Addr.isUnspecified_ofBits, Ipv4Addr.isBroadcast_ofBits, Ipv4Addr.isMulticast_ofBits,
    reservedBlocks, forall_mem_cons, not_mem_nil, false_implies, implies_true, and_true,
    not_or, and_assoc]

/-! ## Every spelling -/

section

variable {parseIpv6 : List Char → Option Ipv6Addr}
  (colons : ∀ text, (parseIpv6 text).isSome → ':' ∈ text)
  {address : UInt32} {text : List Char} (spells : Spells address text)

include colons spells

theorem hostIsPublic_eq :
    hostIsPublic parseIpv6 text = ipv4IsPublic (.ofBits address) := by
  have notIpv6 : parseIpv6 text = none := by
    by_contra taken
    exact spells.notMem (by decide) (by simp [Numeral.toDigit])
      (colons text (isSome_iff_ne_none.mpr taken))
  exact hostIsPublic_of_parseInetAtonIpv4 notIpv6 (parseInetAtonIpv4_of_spells spells)

/-- No URL that counts as safe names an address of a reserved block, however it is spelled. -/
theorem not_holds_of_aiaResponderUrlIsSafe {url : List Char}
    (safe : aiaResponderUrlIsSafe parseIpv6 url = true) (named : extractUrlHost url = some text) :
    ∀ block ∈ reservedBlocks, ¬ block.Holds address := by
  rw [← ipv4IsPublic_iff, ← hostIsPublic_eq colons spells]
  simp only [aiaResponderUrlIsSafe, named] at safe
  split at safe
  · cases safe
  · exact safe

end

/-- Nor does the fetch connect to one, whatever a name resolves to. -/
theorem not_holds_of_resolveVetted {addresses vetted : List IpAddr}
    (vets : resolveVetted addresses = some vetted) (found : .v4 (.ofBits address) ∈ vetted) :
    ∀ block ∈ reservedBlocks, ¬ block.Holds address := by
  simp only [resolveVetted, ite_none_left_eq_some, Bool.or_eq_true, not_or, List.any_eq_true,
    not_exists, not_and, Bool.not_eq_true', Bool.not_eq_false, some.injEq] at vets
  obtain ⟨⟨_, allPublic⟩, rfl⟩ := vets
  exact (ipv4IsPublic_iff address).mp (allPublic _ found)

/-- A host that spells an address is public when the address is; and no spelling of an
address in a reserved block is. -/
theorem hostIsPublic_spelling {parseIpv6 : List Char → Option Ipv6Addr}
    (colons : ∀ text, (parseIpv6 text).isSome → ':' ∈ text) (address : UInt32) (text : List Char)
    (spells : Spells address text) :
    hostIsPublic parseIpv6 text = ipv4IsPublic (.ofBits address) ∧
      ∀ block ∈ reservedBlocks, block.Holds address → hostIsPublic parseIpv6 text = false := by
  have same := hostIsPublic_eq colons spells
  refine ⟨same, ?_⟩
  intro block member holds
  rw [same, ← Bool.not_eq_true, ipv4IsPublic_iff]
  intro none
  exact none block member holds

/-- An IPv6 reader that takes the loopback address only. -/
def loopbackIpv6 (text : List Char) : Option Ipv6Addr :=
  if text = "::1".toList then some ⟨(Vector.replicate 7 0).push 1⟩ else none

/-- In two parts and two radices, the loopback address is still no public host. -/
theorem hostIsPublic_spelling_loopback :
    Spells 2130706433 "0x7F.01".toList ∧
      hostIsPublic loopbackIpv6 "0x7F.01".toList = ipv4IsPublic ⟨127, 0, 0, 1⟩ ∧
      hostIsPublic loopbackIpv6 "0x7F.01".toList = false := by
  have colons : ∀ text, (loopbackIpv6 text).isSome → ':' ∈ text := by
    intro text taken
    unfold loopbackIpv6 at taken
    split at taken
    · rename_i same
      rw [same]
      decide
    · cases taken
  have high : PartSpells 127 "0x7F".toList :=
    .hexadecimal (.inl rfl) ⟨by decide, by decide, by decide⟩
  have low : PartSpells 1 "01".toList := .octal ⟨by decide, by decide, by decide⟩
  have spells : Spells 2130706433 "0x7F.01".toList :=
    ⟨2, ["0x7F".toList, "01".toList], by decide, by decide, .cons high (.cons low .nil), rfl⟩
  have taken := hostIsPublic_spelling colons 2130706433 _ spells
  exact ⟨spells, taken.1, taken.2 ⟨127 * 2 ^ 24, 8⟩ (by simp [reservedBlocks]) (by decide)⟩

end Mcps.Proxy
