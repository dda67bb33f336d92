import Mcps.Lib.Numeral
import Mcps.Lib.Scanner
import Mcps.Proxy.Transport

/-!
# Identities forwarded by a reverse proxy

Behind an ingress that terminates mutual TLS the client's identity is read from a header the
ingress sets: as it stands, or out of Envoy's `X-Forwarded-Client-Cert`, a comma-separated
list of certificate elements of semicolon-separated `Key=Value` pairs.  Every defect of the
header yields no identity.
-/

namespace Mcps

/-- Which field of a certificate is authoritative. -/
inductive IdentityPolicy where
  | uriSan
  | dnsSan
  | cnLegacy
  deriving DecidableEq, Repr

/-! ## Text -/

/-- `str::to_ascii_lowercase`. -/
def toAsciiLowercase (text : List Char) : List Char := text.map Char.toLower

/-- `str::split_once`. -/
def splitOnce (separator : Char) : List Char → Option (List Char × List Char)
  | [] => none
  | c :: rest =>
    if c = separator then some ([], rest)
    else (splitOnce separator rest).map fun (before, after) => (c :: before, after)

/-- The lines of a text behind the beginning of the first one. -/
def linesAfter (line : List Char) : List Char → List (List Char)
  | [] => if line = [] then [] else [line]
  | c :: rest =>
    if c = '\n' then
      (if line.getLast? = some '\r' then line.dropLast else line) :: linesAfter [] rest
    else linesAfter (line ++ [c]) rest

/-- `str::lines`. -/
def lines (text : List Char) : List (List Char) := linesAfter [] text

theorem splitOnce_append {separator : Char} {before : List Char} (clean : separator ∉ before)
    (after : List Char) : splitOnce separator (before ++ separator :: after) = some (before, after) := by
  induction before with
  | nil => simp [splitOnce]
  | cons c before ih =>
    obtain ⟨other, clean⟩ := not_or.mp (mt List.mem_cons.mpr clean)
    simp [splitOnce, Ne.symm other, ih clean]

/-! ## Headers -/

/-- The headers of a request in wire order, under lowercased names. -/
structure RequestHeaders where
  headers : List (String × String)
  deriving DecidableEq, Repr

namespace RequestHeaders

/-- Read a header block: the request line, blank lines and lines without a colon are skipped. -/
def parse (headerBlock : List Char) : RequestHeaders :=
  ⟨((lines headerBlock).drop 1).filterMap fun line =>
    if (trim line).isEmpty then none
    else (splitOnce ':' line).map fun (name, value) =>
      (String.ofList (toAsciiLowercase (trim name)), String.ofList (trim value))⟩

def fromPairs (pairs : List (String × String)) : RequestHeaders :=
  ⟨pairs.map fun (name, value) => (String.ofList (toAsciiLowercase (textChars name)), value)⟩

/-- The values under a name. -/
def values (request : RequestHeaders) (name : String) : List String :=
  let lowered := String.ofList (toAsciiLowercase (textChars name))
  (request.headers.filter fun header => header.1 = lowered).map Prod.snd

def first (request : RequestHeaders) (name : String) : Option String :=
  (request.values name).head?

def count (request : RequestHeaders) (name : String) : Nat := (request.values name).length

end RequestHeaders

/-! ## Splitting -/

/-- Tracks whether a place is quoted; a separator cuts where it is not. -/
def quoteScanner (separator : Char) : Scanner Char Bool where
  step inQuotes c := if c = '"' then !inQuotes else inQuotes
  cuts inQuotes c := c ≠ '"' && c = separator && !inQuotes

/-- Split outside of quotes; a quote that is not closed fails. -/
def splitOutsideQuotes (value : List Char) (separator : Char) : Option (List (List Char)) :=
  if (quoteScanner separator).after false value then none
  else some ((quoteScanner separator).pieces false value)

def splitXfccElements (value : List Char) : Option (List (List Char)) :=
  splitOutsideQuotes value ','

def splitXfccElementPairs (element : List Char) : Option (List (List Char)) :=
  splitOutsideQuotes element ';'

/-- Drop one pair of surrounding double quotes, if both are there. -/
def stripOptionalQuotes : List Char → List Char
  | '"' :: inner => if inner.getLast? = some '"' then inner.dropLast else '"' :: inner
  | value => value

/-- Whether the next character is escaped, and whether it is quoted. -/
structure EscapeState where
  escaped : Bool
  inQuotes : Bool
  deriving DecidableEq, Repr

def escapeScanner (separator : Char) : Scanner Char EscapeState where
  step state c :=
    if state.escaped then { state with escaped := false }
    else if c = '\\' then { state with escaped := true }
    else if c = '"' then { state with inQuotes := !state.inQuotes }
    else state
  cuts state c :=
    !state.escaped && c ≠ '\\' && c ≠ '"' && c = separator && !state.inQuotes

/-- Split where the separator is neither escaped nor quoted. -/
def splitUnescaped (input : List Char) (separator : Char) : List (List Char) :=
  (escapeScanner separator).pieces ⟨false, false⟩ input

/-! ## Distinguished names -/

def backslash : UInt8 := 0x5C

/-- `(byte as char).to_digit(16)`. -/
def hexDigit (byte : UInt8) : Option Nat := Numeral.toDigit 16 (Char.ofNat byte.toNat)

/-- Resolve the escapes of an attribute value: two hexadecimal digits are a byte, any other
escaped byte stands for itself. -/
def unescapeBytes : Bytes → Option Bytes
  | [] => some []
  | [byte] => if byte = backslash then none else some [byte]
  | byte :: next :: rest =>
    if byte ≠ backslash then (unescapeBytes (next :: rest)).map (byte :: ·)
    else
      match rest with
      | [] => some [next]
      | after :: tail =>
        match hexDigit next, hexDigit after with
        | some high, some low =>
          (unescapeBytes tail).map (UInt8.ofNat (high * 16 + low) :: ·)
        | _, _ => (unescapeBytes (after :: tail)).map (next :: ·)

def unescapeRfc2253Value (value : List Char) : Option (List Char) := do
  let bytes ← unescapeBytes (encodeUtf8 (stripOptionalQuotes value))
  decodeUtf8 bytes

/-- The value of an attribute that is a common name. -/
def commonNameAttribute (attr : List Char) : Option (List Char) := do
  let (type, value) ← splitOnce '=' attr
  if toAsciiLowercase (trim type) = ['c', 'n'] then some (trim value) else none

/-- The first common name of a distinguished name. -/
def commonNameFromRfc2253 (dn : List Char) : Option (List Char) := do
  let attributes := (splitUnescaped dn ',').flatMap fun rdn => splitUnescaped rdn '+'
  let value ← attributes.findSome? commonNameAttribute
  unescapeRfc2253Value value

/-! ## The provider -/

inductive ReverseProxyHeaderFormat where
  | plain
  | xfcc
  deriving DecidableEq, Repr

/-- The trusted header, its format, and the field it asserts. -/
structure ReverseProxyMtlsProvider where
  headerName : String
  format : ReverseProxyHeaderFormat
  policy : IdentityPolicy
  deriving DecidableEq, Repr

namespace IdentityPolicy

def source : IdentityPolicy → IdentitySource
  | uriSan => .uriSan
  | dnsSan => .dnsSan
  | cnLegacy => .commonName

/-- The keys under which the field stands, in lower case. -/
def wanted : IdentityPolicy → List (List Char)
  | uriSan => [['u', 'r', 'i']]
  | dnsSan => [['d', 'n', 's']]
  | cnLegacy => [['s', 'u', 'b', 'j', 'e', 'c', 't'], ['c', 'n']]

/-- Whether a key selects the field. -/
def Selects (policy : IdentityPolicy) (key : List Char) : Prop :=
  toAsciiLowercase (trim key) ∈ policy.wanted

instance (policy : IdentityPolicy) (key : List Char) : Decidable (policy.Selects key) :=
  inferInstanceAs (Decidable (_ ∈ _))

/-- The key and the unquoted value of a pair that has a selected key. -/
def selectedField (policy : IdentityPolicy) (pair : List Char) :
    Option (List Char × List Char) := do
  let (key, rawValue) ← splitOnce '=' pair
  if policy.Selects key then
    some (toAsciiLowercase (trim key), stripOptionalQuotes (trim rawValue))
  else none

/-- The identity in a selected field: a subject is reduced to its common name. -/
def extracted (field : List Char × List Char) : Option (List Char) :=
  if field.1 = ['s', 'u', 'b', 'j', 'e', 'c', 't'] then commonNameFromRfc2253 field.2
  else some field.2

/-- Take one pair into account; an unusable or a conflicting value fails. -/
def readPair (policy : IdentityPolicy) (found : Option (List Char)) (pair : List Char) :
    Option (Option (List Char)) :=
  match policy.selectedField pair with
  | none => some found
  | some field =>
    match extracted field with
    | none => none
    | some value =>
      if value = [] then none
      else
        match found with
        | some existing => if existing ≠ value then none else some found
        | none => some (some value)

end IdentityPolicy

namespace ReverseProxyMtlsProvider

def source (provider : ReverseProxyMtlsProvider) : IdentitySource := provider.policy.source

def parsePlain (provider : ReverseProxyMtlsProvider) (value : String) :
    Option TransportIdentity := do
  let validated ← (validateAssertedIdentityValue value).toOption
  return ⟨String.ofList validated, provider.source⟩

def parseXfcc (provider : ReverseProxyMtlsProvider) (value : String) :
    Option TransportIdentity := do
  let elements ← splitXfccElements (textChars value)
  let found ← elements.foldlM (fun found element => do
    let pairs ← splitXfccElementPairs element
    pairs.foldlM provider.policy.readPair found) none
  let identity ← (validateAssertedIdentityValue (String.ofList (← found))).toOption
  return ⟨String.ofList identity, provider.source⟩

/-- The identity a request's headers assert; the trusted header must occur once. -/
def verifiedIdentity (provider : ReverseProxyMtlsProvider) (request : RequestHeaders) :
    Option TransportIdentity :=
  if request.count provider.headerName ≠ 1 then none
  else do
    let value ← request.first provider.headerName
    match provider.format with
    | .plain => provider.parsePlain value
    | .xfcc => provider.parseXfcc value

end ReverseProxyMtlsProvider

end Mcps
