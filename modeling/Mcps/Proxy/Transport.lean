import Mathlib
import Mcps.Core.Pipeline

/-!
# Transport identities and ingress assertions

The binding policies that tie a request's signer to the identity of its channel, and
the load balancer's signed assertion of that identity: five base64url fields in one
header, signed over a length-prefixed preimage and bound to the hash of one request.
-/

namespace Mcps

open List Except

inductive IdentitySource where
  | uriSan
  | dnsSan
  | commonName
  deriving DecidableEq, Repr

structure TransportIdentity where
  value : String
  source : IdentitySource
  deriving DecidableEq, Repr

/-- A policy's verdict on a signer and the identity of its channel. -/
abbrev TransportBindingPolicy :=
  (signer : String) → (identity : Option TransportIdentity) → Except McpsError Unit

/-- The signer must be the channel's identity. -/
def exactMatchBinding : TransportBindingPolicy := fun signer identity =>
  match identity with
  | some identity =>
    if identity.value = signer then .ok () else .error .transportBindingFailed
  | none => .error .transportBindingFailed

/-! ## Text of headers -/

def maxAssertedIdentityLen : Nat := 8192

/-- `char::is_whitespace`. -/
def isWhitespace (c : Char) : Bool :=
  let code := c.toNat
  (9 ≤ code && code ≤ 13) || code = 0x20 || code = 0x85 || code = 0xA0 || code = 0x1680 ||
    (0x2000 ≤ code && code ≤ 0x200A) || code = 0x2028 || code = 0x2029 || code = 0x202F ||
    code = 0x205F || code = 0x3000

theorem isWhitespace_of_printable {c : Char} (low : 0x21 ≤ c.toNat) (high : c.toNat ≤ 0x7E) :
    isWhitespace c = false := by
  simp only [isWhitespace, Bool.or_eq_false_iff, Bool.and_eq_false_iff, decide_eq_false_iff_not]
  omega

theorem toNat_of_isAlphanum {c : Char} (alphanumeric : c.isAlphanum = true) :
    48 ≤ c.toNat ∧ c.toNat ≤ 122 := by
  have code : c.val.toNat = c.toNat := rfl
  simp only [Char.isAlphanum, Char.isAlpha, Char.isUpper, Char.isLower, Char.isDigit,
    Bool.or_eq_true, Bool.and_eq_true, decide_eq_true_eq, UInt32.le_iff_toNat_le]
    at alphanumeric
  have bounds : 'A'.val.toNat = 65 ∧ 'Z'.val.toNat = 90 ∧ 'a'.val.toNat = 97 ∧
      'z'.val.toNat = 122 ∧ '0'.val.toNat = 48 ∧ '9'.val.toNat = 57 :=
    ⟨rfl, rfl, rfl, rfl, rfl, rfl⟩
  omega

theorem isWhitespace_of_isAlphanum {c : Char} (alphanumeric : c.isAlphanum = true) :
    isWhitespace c = false := by
  obtain ⟨_, _⟩ := toNat_of_isAlphanum alphanumeric
  exact isWhitespace_of_printable (by omega) (by omega)

/-- `char::is_control`. -/
def isControl (c : Char) : Bool := c.toNat ≤ 0x1F || (0x7F ≤ c.toNat && c.toNat ≤ 0x9F)

/-- `str::trim`. -/
def trim (text : List Char) : List Char :=
  ((text.dropWhile isWhitespace).reverse.dropWhile isWhitespace).reverse

/-- No whitespace at either end. -/
def Bare (text : List Char) : Prop :=
  (∀ c ∈ text.head?, isWhitespace c = false) ∧ ∀ c ∈ text.getLast?, isWhitespace c = false

variable (text : List Char)

theorem trim_eq : trim text = (text.dropWhile isWhitespace).rdropWhile isWhitespace := rfl

theorem bare_trim : Bare (trim text) := by
  constructor
  · intro c head
    obtain ⟨_, joined⟩ := rdropWhile_prefix isWhitespace (text.dropWhile isWhitespace)
    have begins : (text.dropWhile isWhitespace).head? = some c := by
      rw [← joined, head?_append, ← trim_eq, Option.mem_def.mp head, Option.some_or]
    simpa [begins] using head?_dropWhile_not isWhitespace text
  · intro c last
    have some : trim text ≠ [] := by
      rintro empty
      simp [empty] at last
    have ends := rdropWhile_last_not isWhitespace (text.dropWhile isWhitespace) some
    rw [Option.mem_def, getLast?_eq_some_getLast some, Option.some.injEq] at last
    rw [← last]
    exact Bool.eq_false_iff.mpr ends

theorem trim_append {left core right : List Char} (bare : Bare core)
    (leading : ∀ c ∈ left, isWhitespace c = true) (trailing : ∀ c ∈ right, isWhitespace c = true) :
    trim (left ++ core ++ right) = core := by
  rw [trim_eq, append_assoc, dropWhile_append_of_pos leading]
  cases core with
  | nil =>
    rw [nil_append, dropWhile_eq_nil_iff.mpr trailing, rdropWhile_nil]
  | cons c core =>
    have first : isWhitespace c = false := bare.1 c rfl
    rw [cons_append, dropWhile_cons_of_neg (by simp [first]), ← cons_append,
      rdropWhile, reverse_append, dropWhile_append_of_pos (by simpa using trailing),
      ← rdropWhile, rdropWhile_eq_self_iff]
    intro some
    simp [bare.2 _ (getLast?_eq_some_getLast some)]

theorem trim_of_bare {text : List Char} (bare : Bare text) : trim text = text := by
  simpa using @trim_append [] text [] bare nofun nofun

theorem takeWhile_append_trim :
    text.takeWhile isWhitespace ++ trim text ++
      (text.dropWhile isWhitespace).rtakeWhile isWhitespace = text := by
  rw [trim_eq, append_assoc, rdropWhile_append_rtakeWhile, takeWhile_append_dropWhile]

theorem trim_split :
    ∃ left right, text = left ++ trim text ++ right ∧ (∀ c ∈ left, isWhitespace c = true) ∧
      ∀ c ∈ right, isWhitespace c = true :=
  ⟨text.takeWhile isWhitespace, (text.dropWhile isWhitespace).rtakeWhile isWhitespace,
    (takeWhile_append_trim text).symm, fun _ => mem_takeWhile_imp,
    fun _ => mem_rtakeWhile_imp⟩

theorem notMem_trim {c : Char} {text : List Char} (absent : c ∉ text) : c ∉ trim text := by
  rw [← takeWhile_append_trim text] at absent
  intro member
  apply absent
  simp [member]

@[simp] theorem trim_trim : trim (trim text) = trim text :=
  trim_of_bare (bare_trim text)

inductive AssertedIdentityRejection where
  | empty
  | tooLong
  | malformed
  deriving DecidableEq, Repr

def validateAssertedIdentityValue (value : String) :
    Except AssertedIdentityRejection (List Char) := do
  let trimmed := trim (textChars value)
  if trimmed.isEmpty then throw .empty
  if (encodeUtf8 trimmed).length > maxAssertedIdentityLen then throw .tooLong
  if trimmed.any isControl then throw .malformed
  return trimmed

/-- An identity of the shape the strict rules admit. -/
structure WellFormedIdentity (identity : List Char) : Prop where
  nonempty : identity ≠ []
  bounded : (encodeUtf8 identity).length ≤ maxAssertedIdentityLen
  clean : ∀ c ∈ identity, isControl c = false

theorem validateAssertedIdentityValue_eq_ok {value : String} {identity : List Char} :
    validateAssertedIdentityValue value = .ok identity ↔
      trim (textChars value) = identity ∧ WellFormedIdentity identity := by
  simp only [validateAssertedIdentityValue, throw_eq_error, bind_error, guard_eq_ok]
  constructor
  · rintro ⟨nonempty, bounded, clean, ⟨⟩⟩
    exact ⟨rfl, by simpa using nonempty, by simpa using bounded, by simpa using clean⟩
  · rintro ⟨rfl, wellFormed⟩
    exact ⟨by simpa using wellFormed.nonempty, by simpa using wellFormed.bounded,
      by simpa using wellFormed.clean, rfl⟩

/-! ## Assertions -/

/-- The asserted fields. -/
structure LbAssertion where
  keyId : String
  assertedClientIdentity : String
  requestHash : String
  validationTime : Int
  deriving DecidableEq, Repr

/-- The big-endian bytes of a number modulo `2 ^ 64`. -/
def toBeBytes (n : Int) : Bytes :=
  [56, 48, 40, 32, 24, 16, 8, 0].map fun shift =>
    UInt8.ofNat ((n % 2 ^ 64).toNat / 2 ^ shift % 256)

/-- `i64::from_be_bytes` of a slice that must have eight bytes. -/
def i64FromBeBytes (bytes : Bytes) : Option Int :=
  if bytes.length ≠ 8 then none
  else
    let unsigned : Nat := bytes.foldl (fun read byte => read * 256 + byte.toNat) 0
    some (if unsigned < 2 ^ 63 then unsigned else unsigned - 2 ^ 64)

def lbAssertionDomainTag : Bytes := textBytes "mcps/lb-ingress-assertion/v1"

/-- The bytes the load balancer signs: every field after its length. -/
def LbAssertion.signingPreimage (assertion : LbAssertion) : Bytes :=
  let fields := [assertion.keyId, assertion.assertedClientIdentity, assertion.requestHash]
  lbAssertionDomainTag ++
    (fields.flatMap fun field => toBeBytes (textBytes field).length ++ textBytes field) ++
    toBeBytes assertion.validationTime

inductive LbAssertionRejection where
  | malformed
  | unknownKeyId
  | badSignature
  | requestHashMismatch
  | stale
  deriving DecidableEq, Repr

/-- A verifier of assertions: the trusted keys by id, the source stamped on the
identities it yields, and the accepted age. -/
structure LbAssertionBinding where
  keys : List (String × VerificationKey)
  source : IdentitySource
  maxAgeSecs : Int

namespace LbAssertionBinding

def defaultMaxAgeSecs : Int := 30

def new (source : IdentitySource) : LbAssertionBinding := ⟨[], source, defaultMaxAgeSecs⟩

def withMaxAgeSecs (binding : LbAssertionBinding) (maxAgeSecs : Int) : LbAssertionBinding :=
  { binding with maxAgeSecs }

/-- Trust a key under an id, in place of any other key it had. -/
def addKey (binding : LbAssertionBinding) (keyId : String) (key : VerificationKey) :
    LbAssertionBinding :=
  { binding with keys := Assoc.erase keyId binding.keys ++ [(keyId, key)] }

end LbAssertionBinding

/-- Negation of an `i64`, wrapping as release builds do. -/
def wrappingNeg (n : Int) : Int := if n = -2 ^ 63 then n else -n

section

variable [Crates]

/-- The digest of a `sha256:` identifier. -/
def parseHashId (text : String) : Except McpsError Bytes := do
  let tag := textChars "sha256:"
  if !tag.isPrefixOf (textChars text) then throw .canonicalizationFailed
  let body := String.ofList ((textChars text).drop tag.length)
  let bytes ← (Crates.b64urlDecode body).okOr .canonicalizationFailed
  if bytes.length ≠ 32 then throw .canonicalizationFailed
  return bytes

def decodeB64urlField (field : List Char) : Except LbAssertionRejection String := do
  let bytes ← (Crates.b64urlDecode (String.ofList field)).okOr .malformed
  return String.ofList (← (decodeUtf8 bytes).okOr .malformed)

namespace LbAssertionBinding

/-- Read an assertion header and the signature it carries. -/
def parse (value : String) : Except LbAssertionRejection (LbAssertion × String) := do
  let trimmed := trim (textChars value)
  if trimmed.isEmpty || (encodeUtf8 trimmed).length > maxAssertedIdentityLen then
    throw .malformed
  match trimmed.splitOn '.' with
  | [keyIdPart, identityPart, hashPart, timePart, signature] =>
    let keyId ← decodeB64urlField keyIdPart
    let assertedClientIdentity ← decodeB64urlField identityPart
    let requestHash ← decodeB64urlField hashPart
    let timeBytes ← (Crates.b64urlDecode (String.ofList timePart)).okOr .malformed
    let validationTime ← (i64FromBeBytes timeBytes).okOr .malformed
    if signature.isEmpty then throw .malformed
    if (validateAssertedIdentityValue assertedClientIdentity).toOption.isNone then
      throw .malformed
    if keyId.isEmpty || requestHash.isEmpty || (textChars keyId).any isControl ||
        (textChars requestHash).any isControl then
      throw .malformed
    return (⟨keyId, assertedClientIdentity, requestHash, validationTime⟩,
      String.ofList signature)
  | _ => .error .malformed

/-- Verify a presented assertion against the request in hand; yields the identity. -/
def verify (binding : LbAssertionBinding) (assertionValue inHandRequestHash : String)
    (now : Int) : Except LbAssertionRejection TransportIdentity := do
  let (assertion, signature) ← parse assertionValue
  let key ← (Assoc.find? assertion.keyId binding.keys).okOr .unknownKeyId
  (verifyEd25519With assertion.signingPreimage signature key .transportBindingFailed).mapError
    fun _ => .badSignature
  let bound ← (parseHashId assertion.requestHash).mapError fun _ => .requestHashMismatch
  let inHand ← (parseHashId inHandRequestHash).mapError fun _ => .requestHashMismatch
  if bound ≠ inHand then throw .requestHashMismatch
  let age := saturatingSub now assertion.validationTime
  if age > binding.maxAgeSecs || age < wrappingNeg binding.maxAgeSecs then throw .stale
  return ⟨assertion.assertedClientIdentity, binding.source⟩

end LbAssertionBinding

end

end Mcps
