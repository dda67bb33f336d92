import Mcps.Core.Vocabulary

/-!
# Canonical serialization

The in-house RFC 8785 writer and the conversion of a `serde_json` value into its
JCS-safe domain: integers within ±(2^53 − 1), containers at most 128 levels deep.
Every failure is `canonicalizationFailed`, so the order in which members are tried
cannot be observed; the writer renders the members first and sorts the rendered
entries.
-/

namespace Mcps

/-- A JCS-safe value: its numbers are integers, its members keep insertion order. -/
abbrev JcsValue := Json Int

def maxSafeInteger : Int := 9007199254740991

def maxParseDepth : Nat := 128

/-- A safe integer, in ±(2^53 − 1). -/
def SafeInteger (i : Int) : Prop := -maxSafeInteger ≤ i ∧ i ≤ maxSafeInteger

instance (i : Int) : Decidable (SafeInteger i) := inferInstanceAs (Decidable (_ ∧ _))

def checkSafeInteger (i : Int) : Except McpsError Unit :=
  if SafeInteger i then .ok () else .error .canonicalizationFailed

/-! ## From `serde_json` values -/

/-- The integer of a number, if it is one of the safe ones. -/
def integerOfNumber (n : Number) : Except McpsError Int :=
  match n.asI64 with
  | some i => do
    checkSafeInteger i
    return i
  | none =>
    match n.asU64 with
    | some u => if (u : Int) > maxSafeInteger then .error .canonicalizationFailed else .ok u
    | none => .error .canonicalizationFailed

mutual
/-- Convert a value found at a container depth. -/
def fromSerdeValueAt : Value → Nat → Except McpsError JcsValue
  | .null, _ => .ok .null
  | .bool b, _ => .ok (.bool b)
  | .number n, _ => do return .number (← integerOfNumber n)
  | .string s, _ => .ok (.string s)
  | .array items, depth =>
    if depth ≥ maxParseDepth then .error .canonicalizationFailed
    else do return .array (← fromSerdeItems items (depth + 1))
  | .object members, depth =>
    if depth ≥ maxParseDepth then .error .canonicalizationFailed
    else do return .object (← fromSerdeMembers members (depth + 1))

/-- The loop over the items of an array. -/
def fromSerdeItems : List Value → Nat → Except McpsError (List JcsValue)
  | [], _ => .ok []
  | item :: rest, depth => do
    let item ← fromSerdeValueAt item depth
    return item :: (← fromSerdeItems rest depth)

/-- The loop over the members of an object. -/
def fromSerdeMembers : List (String × Value) → Nat → Except McpsError (List (String × JcsValue))
  | [], _ => .ok []
  | (key, value) :: rest, depth => do
    let value ← fromSerdeValueAt value depth
    return (key, value) :: (← fromSerdeMembers rest depth)
end

def fromSerdeValue (value : Value) : Except McpsError JcsValue := fromSerdeValueAt value 0

/-! ## Writing -/

/-- Decimal text of an integer. -/
def writeInteger (i : Int) : List Char :=
  if i < 0 then '-' :: Nat.toDigits 10 i.natAbs else Nat.toDigits 10 i.natAbs

/-- A character of a string literal, escaped where RFC 8785 asks for it. -/
def writeChar (c : Char) : List Char :=
  if c = '"' then ['\\', '"']
  else if c = '\\' then ['\\', '\\']
  else if c = '\x08' then ['\\', 'b']
  else if c = '\t' then ['\\', 't']
  else if c = '\n' then ['\\', 'n']
  else if c = '\x0c' then ['\\', 'f']
  else if c = '\r' then ['\\', 'r']
  else if c.toNat ≤ 0x1F then
    ['\\', 'u', '0', '0', Nat.digitChar (c.toNat / 16), Nat.digitChar (c.toNat % 16)]
  else [c]

/-- The characters of a string literal between its quotes. -/
def writeChars (chars : List Char) : List Char := chars.flatMap writeChar

def writeString (s : String) : List Char := '"' :: (writeChars (textChars s) ++ ['"'])

/-- The UTF-16 code units of a character. -/
def utf16Units (c : Char) : List Nat :=
  if c.toNat < 0x10000 then [c.toNat]
  else [0xD800 + (c.toNat - 0x10000) / 0x400, 0xDC00 + (c.toNat - 0x10000) % 0x400]

/-- `str::encode_utf16`. -/
def encodeUtf16 (s : String) : List Nat := (textChars s).flatMap utf16Units

/-- Compare two strings by their UTF-16 code units. -/
def cmpUtf16 (a b : String) : Ordering := compareUnits (encodeUtf16 a) (encodeUtf16 b)

/-- The member order of canonical output. -/
def leUtf16 (a b : String) : Prop := cmpUtf16 a b ≠ .gt

instance : DecidableRel leUtf16 := fun a b => inferInstanceAs (Decidable (cmpUtf16 a b ≠ .gt))

/-- Two neighbours under one key. -/
def hasAdjacentDuplicate {α : Type} : List (String × α) → Bool
  | first :: second :: rest => first.1 = second.1 || hasAdjacentDuplicate (second :: rest)
  | _ => false

/-- Pieces of text with commas between them. -/
def commaSeparated : List (List Char) → List Char
  | [] => []
  | [piece] => piece
  | piece :: next :: rest => piece ++ ',' :: commaSeparated (next :: rest)

def writeMember (member : String × List Char) : List Char :=
  writeString member.1 ++ ':' :: member.2

mutual
/-- Emit a value found at a container depth. -/
def writeValue : JcsValue → Nat → Except McpsError (List Char)
  | .null, _ => .ok ['n', 'u', 'l', 'l']
  | .bool true, _ => .ok ['t', 'r', 'u', 'e']
  | .bool false, _ => .ok ['f', 'a', 'l', 's', 'e']
  | .number i, _ => .ok (writeInteger i)
  | .string s, _ => .ok (writeString s)
  | .array items, depth =>
    if depth ≥ maxParseDepth then .error .canonicalizationFailed
    else do return '[' :: (commaSeparated (← writeItems items (depth + 1)) ++ [']'])
  | .object members, depth =>
    if depth ≥ maxParseDepth then .error .canonicalizationFailed
    else do
      let entries ← writeMembers members (depth + 1)
      let sorted := entries.insertionSort fun a b => leUtf16 a.1 b.1
      if hasAdjacentDuplicate sorted then throw .canonicalizationFailed
      return '{' :: (commaSeparated (sorted.map writeMember) ++ ['}'])

/-- The texts of the items of an array. -/
def writeItems : List JcsValue → Nat → Except McpsError (List (List Char))
  | [], _ => .ok []
  | item :: rest, depth => do
    let text ← writeValue item depth
    return text :: (← writeItems rest depth)

/-- The texts of the values of an object, each with its key. -/
def writeMembers : List (String × JcsValue) → Nat → Except McpsError (List (String × List Char))
  | [], _ => .ok []
  | (key, value) :: rest, depth => do
    let text ← writeValue value depth
    return (key, text) :: (← writeMembers rest depth)
end

def canonicalizeValue (value : JcsValue) : Except McpsError Bytes := do
  return encodeUtf8 (← writeValue value 0)

def canonicalizeJsonValue (value : Value) : Except McpsError Bytes := do
  canonicalizeValue (← fromSerdeValue value)

end Mcps
