import Mcps.Core.Canonical
import Mcps.Core.Time
import Mcps.Lib.Result

/-!
# The raw-bytes parser

The character-level JSON parser that enforces the JCS-safe domain on wire bytes.

A parser takes the characters still to be read and returns what it recognised with
the characters after it.  Every failure is `canonicalizationFailed`, so inside the
parser it is `none`.  The loops of the source are bounded by the number of characters
left, and the recursion by the container levels still allowed.
-/

namespace Mcps

/-! ## Characters and literals -/

def isWs (c : Char) : Bool := c = ' ' || c = '\t' || c = '\n' || c = '\r'

def skipWs (input : List Char) : List Char := input.dropWhile isWs

/-- Consume one given character. -/
def expect (expected : Char) : List Char → Option (List Char)
  | c :: rest => if c = expected then some rest else none
  | [] => none

/-- Consume a given literal. -/
def parseLiteral : List Char → List Char → Option (List Char)
  | [], input => some input
  | expected :: literal, input => do parseLiteral literal (← expect expected input)

/-! ## Strings -/

/-- `char::to_digit(16)`. -/
def hexDigitValue (c : Char) : Option Nat :=
  if '0' ≤ c ∧ c ≤ '9' then some (c.toNat - 48)
  else if 'a' ≤ c ∧ c ≤ 'f' then some (c.toNat - 87)
  else if 'A' ≤ c ∧ c ≤ 'F' then some (c.toNat - 55)
  else none

/-- Four hexadecimal digits. -/
def readHex4 : List Char → Option (Nat × List Char)
  | a :: b :: c :: d :: rest => do
    let a ← hexDigitValue a
    let b ← hexDigitValue b
    let c ← hexDigitValue c
    let d ← hexDigitValue d
    return (((a * 16 + b) * 16 + c) * 16 + d, rest)
  | _ => none

/-- `char::from_u32`. -/
def charFromU32 (code : Nat) : Option Char :=
  if code.isValidChar then some (Char.ofNat code) else none

/-- The digits of a `\u` escape, with the second half of a surrogate pair. -/
def parseUnicodeEscape (input : List Char) : Option (Char × List Char) := do
  let (first, input) ← readHex4 input
  if 0xD800 ≤ first ∧ first ≤ 0xDBFF then
    let input ← expect '\\' input
    let input ← expect 'u' input
    let (second, input) ← readHex4 input
    if 0xDC00 ≤ second ∧ second ≤ 0xDFFF then
      return (← charFromU32 (0x10000 + (first - 0xD800) * 1024 + (second - 0xDC00)), input)
    else none
  else if 0xDC00 ≤ first ∧ first ≤ 0xDFFF then none
  else return (← charFromU32 first, input)

/-- What follows a backslash. -/
def parseEscape : List Char → Option (Char × List Char)
  | '"' :: rest => some ('"', rest)
  | '\\' :: rest => some ('\\', rest)
  | '/' :: rest => some ('/', rest)
  | 'b' :: rest => some ('\x08', rest)
  | 'f' :: rest => some ('\x0c', rest)
  | 'n' :: rest => some ('\n', rest)
  | 'r' :: rest => some ('\r', rest)
  | 't' :: rest => some ('\t', rest)
  | 'u' :: rest => parseUnicodeEscape rest
  | _ => none

/-- The loop over the characters of a string literal, up to its closing quote. -/
def parseChars : Nat → List Char → Option (List Char × List Char)
  | 0, _ => none
  | _ + 1, [] => none
  | fuel + 1, c :: rest =>
    if c = '"' then some ([], rest)
    else if c = '\\' then do
      let (decoded, rest) ← parseEscape rest
      let (chars, rest) ← parseChars fuel rest
      return (decoded :: chars, rest)
    else if c.toNat ≤ 0x1F then none
    else do
      let (chars, rest) ← parseChars fuel rest
      return (c :: chars, rest)

def parseString (input : List Char) : Option (String × List Char) := do
  let input ← expect '"' input
  let (chars, rest) ← parseChars input.length input
  return (String.ofList chars, rest)

/-! ## Numbers -/

/-- `str::parse::<i64>` of an optional sign and decimal digits. -/
def parseI64 (negative : Bool) (digits : List Char) : Option Int :=
  let magnitude : Int := Nat.ofDigitChars 10 digits 0
  let value := if negative then -magnitude else magnitude
  if i64Min ≤ value ∧ value ≤ i64Max then some value else none

/-- What follows the digits of a number must not make it a fraction or an exponent,
and its value must be safe. -/
def finishNumber (negative : Bool) (digits rest : List Char) : Option (JcsValue × List Char) :=
  match rest.head? with
  | some '.' | some 'e' | some 'E' => none
  | _ => do
    let value ← parseI64 negative digits
    if SafeInteger value then return (.number value, rest) else none

/-- A single zero, or digits that do not start with one. -/
def parseDigits (negative : Bool) : List Char → Option (JcsValue × List Char)
  | [] => none
  | c :: rest =>
    if c = '0' then finishNumber negative ['0'] rest
    else if '1' ≤ c ∧ c ≤ '9' then
      finishNumber negative (c :: rest.takeWhile Char.isDigit) (rest.dropWhile Char.isDigit)
    else none

def parseNumber : List Char → Option (JcsValue × List Char)
  | [] => none
  | c :: rest => if c = '-' then parseDigits true rest else parseDigits false (c :: rest)

/-! ## Values -/

/-- The loop over the items of an array, after its opening bracket. -/
def parseItems (parseItem : List Char → Option (JcsValue × List Char)) :
    Nat → List Char → Option (List JcsValue × List Char)
  | 0, _ => none
  | fuel + 1, input => do
    let (value, input) ← parseItem (skipWs input)
    match skipWs input with
    | ',' :: rest =>
      let (items, rest) ← parseItems parseItem fuel rest
      return (value :: items, rest)
    | ']' :: rest => return ([value], rest)
    | _ => none

/-- The loop over the members of an object, after its opening brace, with the keys
seen so far. -/
def parseMembers (parseItem : List Char → Option (JcsValue × List Char)) :
    Nat → List String → List Char → Option (List (String × JcsValue) × List Char)
  | 0, _, _ => none
  | fuel + 1, seen, input => do
    let (key, input) ← parseString (skipWs input)
    if key ∈ seen then none
    else
      let input ← expect ':' (skipWs input)
      let (value, input) ← parseItem (skipWs input)
      match skipWs input with
      | ',' :: rest =>
        let (members, rest) ← parseMembers parseItem fuel (key :: seen) rest
        return ((key, value) :: members, rest)
      | '}' :: rest => return ([(key, value)], rest)
      | _ => none

def parseArray (parseItem : List Char → Option (JcsValue × List Char)) (input : List Char) :
    Option (JcsValue × List Char) := do
  let input ← expect '[' input
  match skipWs input with
  | ']' :: rest => return (.array [], rest)
  | input =>
    let (items, rest) ← parseItems parseItem input.length input
    return (.array items, rest)

def parseObject (parseItem : List Char → Option (JcsValue × List Char)) (input : List Char) :
    Option (JcsValue × List Char) := do
  let input ← expect '{' input
  match skipWs input with
  | '}' :: rest => return (.object [], rest)
  | input =>
    let (members, rest) ← parseMembers parseItem input.length [] input
    return (.object members, rest)

/-- Dispatch on the first character.  `inner` parses the values one container level
further in, and is absent at the depth limit. -/
def parseValueWith (inner : Option (List Char → Option (JcsValue × List Char)))
    (input : List Char) : Option (JcsValue × List Char) :=
  match input.head? with
  | some '{' => do parseObject (← inner) input
  | some '[' => do parseArray (← inner) input
  | some '"' => do
    let (s, rest) ← parseString input
    return (.string s, rest)
  | some 't' => do return (.bool true, ← parseLiteral ['t', 'r', 'u', 'e'] input)
  | some 'f' => do return (.bool false, ← parseLiteral ['f', 'a', 'l', 's', 'e'] input)
  | some 'n' => do return (.null, ← parseLiteral ['n', 'u', 'l', 'l'] input)
  | some c => if c = '-' || c.isDigit then parseNumber input else none
  | none => none

/-- Parse a value with the given number of container levels still allowed. -/
def parseValue : Nat → List Char → Option (JcsValue × List Char)
  | 0 => parseValueWith none
  | room + 1 => parseValueWith (some (parseValue room))

/-- Parse a whole text. -/
def parseText (text : List Char) : Option JcsValue := do
  let (value, rest) ← parseValue maxParseDepth (skipWs text)
  if (skipWs rest).isEmpty then return value else none

def parse (input : Bytes) : Except McpsError JcsValue :=
  match (decodeUtf8 input).bind parseText with
  | some value => .ok value
  | none => .error .canonicalizationFailed

def canonicalize (input : Bytes) : Except McpsError Bytes := do
  canonicalizeValue (← parse input)

end Mcps
