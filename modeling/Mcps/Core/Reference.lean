import Mcps.Core.CanonicalDomain
import Mcps.Core.Pipeline

/-!
# Reference crates

Concrete crates to evaluate the model with.  JSON is read by the in-house parser into
sorted maps and written by the canonical writer, which agrees with `serde_json` on
integer documents with ASCII keys; documents the parser does not admit can be given with
what they are read as.  base64url is implemented.  The digest is a constant and Ed25519
signatures come from a table of known answers.
-/

namespace Mcps

open List Option

/-! ## Unpadded base64url -/

/-- The character of a base64url digit. -/
def b64Char (digit : Nat) : Char :=
  if digit < 26 then Char.ofNat (digit + 65)
  else if digit < 52 then Char.ofNat (digit + 71)
  else if digit < 62 then Char.ofNat (digit - 4)
  else if digit = 62 then '-' else '_'

/-- The digit a base64url character stands for. -/
def b64Digit (c : Char) : Option Nat :=
  let code := c.toNat
  if 65 ≤ code && code ≤ 90 then some (code - 65)
  else if 97 ≤ code && code ≤ 122 then some (code - 71)
  else if 48 ≤ code && code ≤ 57 then some (code + 4)
  else if c = '-' then some 62
  else if c = '_' then some 63
  else none

def b64EncodeBytes : List Nat → List Char
  | a :: b :: c :: rest =>
    b64Char (a / 4) :: b64Char (a % 4 * 16 + b / 16) :: b64Char (b % 16 * 4 + c / 64) ::
      b64Char (c % 64) :: b64EncodeBytes rest
  | [a, b] => [b64Char (a / 4), b64Char (a % 4 * 16 + b / 16), b64Char (b % 16 * 4)]
  | [a] => [b64Char (a / 4), b64Char (a % 4 * 16)]
  | [] => []

/-- Bytes of base64url digits; bits left over at the end must be zero. -/
def b64DecodeDigits : List Nat → Option (List Nat)
  | a :: b :: c :: d :: rest => do
    return [a * 4 + b / 16, b % 16 * 16 + c / 4, c % 4 * 64 + d] ++ (← b64DecodeDigits rest)
  | [a, b, c] => if c % 4 = 0 then some [a * 4 + b / 16, b % 16 * 16 + c / 4] else none
  | [a, b] => if b % 16 = 0 then some [a * 4 + b / 16] else none
  | [_] => none
  | [] => some []

def b64urlEncodeBytes (bytes : Bytes) : String :=
  String.ofList (b64EncodeBytes (bytes.map UInt8.toNat))

def b64urlDecodeText (text : String) : Option Bytes := do
  let digits ← (textChars text).mapM b64Digit
  let bytes ← b64DecodeDigits digits
  return bytes.map UInt8.ofNat

theorem b64Digit_b64Char {digit : Nat} (small : digit < 64) :
    b64Digit (b64Char digit) = some digit := by
  have every : ∀ digit : Fin 64, b64Digit (b64Char digit) = some digit.val := by decide
  exact every ⟨digit, small⟩

theorem b64DecodeDigits_b64EncodeBytes (bytes : List Nat) (small : ∀ byte ∈ bytes, byte < 256) :
    ((b64EncodeBytes bytes).mapM b64Digit).bind b64DecodeDigits = some bytes := by
  induction bytes using b64EncodeBytes.induct with
  | case1 a b c rest ih =>
    have aSmall := small a (by simp)
    have bSmall := small b (by simp)
    have cSmall := small c (by simp)
    have decoded := ih fun byte member => small byte (by simp [member])
    obtain ⟨_, read, same⟩ := bind_eq_some_iff.mp decoded
    simp only [b64EncodeBytes, mapM_cons, read, b64Digit_b64Char (show a / 4 < 64 by omega),
      b64Digit_b64Char (show a % 4 * 16 + b / 16 < 64 by omega),
      b64Digit_b64Char (show b % 16 * 4 + c / 64 < 64 by omega),
      b64Digit_b64Char (show c % 64 < 64 by omega)]
    simp only [Option.pure_def, bind_eq_bind, bind_some, b64DecodeDigits, same]
    simp only [cons_append, nil_append, some.injEq, cons.injEq, and_true]
    omega
  | case2 a b =>
    have aSmall := small a (by simp)
    have bSmall := small b (by simp)
    simp only [b64EncodeBytes, mapM_cons, mapM_nil, b64Digit_b64Char (show a / 4 < 64 by omega),
      b64Digit_b64Char (show a % 4 * 16 + b / 16 < 64 by omega),
      b64Digit_b64Char (show b % 16 * 4 < 64 by omega)]
    simp only [Option.pure_def, bind_eq_bind, bind_some, b64DecodeDigits]
    rw [if_pos (by omega)]
    simp only [some.injEq, cons.injEq, and_true]
    omega
  | case3 a =>
    have aSmall := small a (by simp)
    simp only [b64EncodeBytes, mapM_cons, mapM_nil, b64Digit_b64Char (show a / 4 < 64 by omega),
      b64Digit_b64Char (show a % 4 * 16 < 64 by omega)]
    simp only [Option.pure_def, bind_eq_bind, bind_some, b64DecodeDigits]
    rw [if_pos (by omega)]
    simp only [some.injEq, cons.injEq, and_true]
    omega
  | case4 => rfl

theorem b64urlDecodeText_b64urlEncodeBytes (bytes : Bytes) :
    b64urlDecodeText (b64urlEncodeBytes bytes) = some bytes := by
  have decoded := b64DecodeDigits_b64EncodeBytes (bytes.map UInt8.toNat) (by
    intro byte member
    obtain ⟨original, _, rfl⟩ := mem_map.mp member
    exact original.toNat_lt)
  obtain ⟨_, read, same⟩ := bind_eq_some_iff.mp decoded
  have back : UInt8.ofNat ∘ UInt8.toNat = id := funext fun byte => UInt8.ofNat_toNat
  simp [b64urlDecodeText, b64urlEncodeBytes, read, same, back]

/-! ## Crates -/

/-- A known Ed25519 signature: key and signature as base64url. -/
structure KnownSignature where
  key : String
  message : Bytes
  signature : String

/-- Sixty-four zero bytes, for messages without a known signature. -/
def zeroSignature : String :=
  "AAAAAAAAAAAAAAAAAAAAAAAAAAAAAAAAAAAAAAAAAAAAAAAAAAAAAAAAAAAAAAAAAAAAAAAAAAAAAAAAAAAAAA"

/-- The one signature of a message under a key. -/
def referenceSignature (known : List KnownSignature) (key message : Bytes) : String :=
  ((known.find? fun entry =>
    b64urlDecodeText entry.key = some key && entry.message = message).map (·.signature)).getD
    zeroSignature

/-- Crates with one digest, some signatures and some documents. -/
@[reducible] def referenceCrates (digest : String) (known : List KnownSignature)
    (documents : List (Bytes × MapValue)) : Crates where
  fromSlice bytes :=
    match Assoc.find? bytes documents with
    | some value => some value
    | none => (parse bytes).toOption.map fun value =>
      ⟨(value.mapNumbers numberOfInteger).intoMaps, Json.sortedKeys_intoMaps _⟩
  toVec value := some ((canonicalizeJsonValue value).toOption.getD [])
  valueToString value := String.ofList
    ((decodeUtf8 ((canonicalizeJsonValue value).toOption.getD [])).getD [])
  sha256 _ := (b64urlDecodeText digest).getD []
  b64urlEncode := b64urlEncodeBytes
  b64urlDecode := b64urlDecodeText
  verifyStrict key message signature :=
    b64urlDecodeText (referenceSignature known key message) = some signature

section

variable (digest : String) (known : List KnownSignature) (documents : List (Bytes × MapValue))

theorem canonicalizeJsonValue_ne_nil {value : MapValue} {bytes : Bytes}
    (canonical : canonicalizeJsonValue value.val = .ok bytes) : bytes ≠ [] := by
  obtain ⟨_, _, _, _, written⟩ := canonicalizeJsonValue_eq_ok canonical
  have read := readDocument_canonicalizeValue written
  intro empty
  rw [empty] at read
  cases read

theorem serdeJson_referenceCrates : @SerdeJson (referenceCrates digest known documents) := by
  let crates := referenceCrates digest known documents
  constructor
  · intro value
    exact ⟨_, rfl⟩
  · intro value other bytes safe written again
    obtain ⟨_, made⟩ := (canonicalizeJsonValue_isOk_iff value).mpr safe
    have first : (canonicalizeJsonValue value.val).toOption.getD [] = bytes :=
      some.inj written
    have second : (canonicalizeJsonValue other.val).toOption.getD [] = bytes :=
      some.inj again
    rw [made] at first
    cases otherMade : canonicalizeJsonValue other.val with
    | error error =>
      rw [otherMade, ← first] at second
      exact absurd second.symm (canonicalizeJsonValue_ne_nil made)
    | ok otherBytes =>
      rw [otherMade, ← first] at second
      cases second
      exact canonicalizeJsonValue_injective otherMade made

theorem verifyEd25519With_referenceSignature
    (lengths : ∀ entry ∈ known, (b64urlDecodeText entry.signature).map length = some 64)
    (key : VerificationKey) (message : Bytes) (error : McpsError) :
    @verifyEd25519With (referenceCrates digest known documents) message
      (referenceSignature known key.inner message) key error = .ok () := by
  have length : (b64urlDecodeText (referenceSignature known key.inner message)).map
      length = some 64 := by
    unfold referenceSignature
    cases found : known.find? fun entry =>
        b64urlDecodeText entry.key = some key.inner && entry.message = message with
    | none => decide +kernel
    | some entry => exact lengths entry (mem_of_find?_eq_some found)
  obtain ⟨_, decoded, length⟩ := map_eq_some_iff.mp length
  let crates := referenceCrates digest known documents
  exact verifyEd25519With_ok decoded length (decide_eq_true decoded) error

end

/-- Crates that know a list of documents only, each by its text. -/
@[reducible] def documentCrates (base : Crates) (documents : List (Bytes × MapValue)) : Crates :=
  { base with
    fromSlice := fun bytes => Assoc.find? bytes documents
    toVec := fun value => (documents.find? fun document => document.2.val = value).map Prod.fst }

theorem jsonText_documentCrates (base : Crates) {documents : List (Bytes × MapValue)}
    (agree : ∀ document ∈ documents,
      fromSerdeValue document.2.val = (parse document.1).map Json.intoMaps) :
    @JsonText (documentCrates base documents) := by
  let crates := documentCrates base documents
  constructor
  · intro value bytes jcs written parsed
    obtain ⟨document, found, rfl⟩ := map_eq_some_iff.mp written
    have same : document.2.val = value.val := by
      simpa using find?_some found
    rw [← same, agree document (mem_of_find?_eq_some found), parsed]
    rfl
  · intro value _ bytes jcs _ read parsed
    rw [agree (bytes, value) (Assoc.mem_of_find? read), parsed]
    rfl

theorem printParse_documentCrates (base : Crates) {documents : List (Bytes × MapValue)}
    (different : documents.Pairwise fun earlier later => earlier.1 ≠ later.1) :
    @PrintParse (documentCrates base documents) := by
  let crates := documentCrates base documents
  have found : ∀ {value : MapValue} {bytes : Bytes}, Crates.toVec value.val = some bytes →
      Crates.fromSlice bytes = some value := by
    intro value bytes written
    obtain ⟨document, found, rfl⟩ := map_eq_some_iff.mp written
    have same : document.2 = value := by
      apply Subtype.ext
      simpa using find?_some found
    rw [← same]
    exact Assoc.find?_of_mem different (mem_of_find?_eq_some found)
  constructor
  · intro value read bytes _ written parsed
    exact some.inj (parsed.symm.trans (found written))
  · intro value bytes _ written
    rw [found written]
    rfl

/-! ## A signed request -/

/-- A draft-01 `tools/call` request, with or without its signature value. -/
def vectorRequest (signature : List (String × Value)) : Value :=
  .object [("id", .string "req-1"), ("jsonrpc", .string "2.0"), ("method", .string "tools/call"),
    ("params", .object [
      ("_meta", .object [(requestMetaKey, .object [
        ("audience", .string "did:example:server-1"),
        ("authorization_hash", .string "sha256:RBNvo1WzZ4oRRq0W9-hknpT7T8If536DEMBg9hyq_4o"),
        ("expires_at", .string "2026-05-28T20:05:00Z"),
        ("issued_at", .string "2026-05-28T20:00:00Z"),
        ("nonce", .string "Zm9vYmFyYmF6cXV4MTIzNDU2Nzg5MA"),
        ("on_behalf_of", .string "did:example:user-1"),
        ("signature", .object
          ([("alg", .string "Ed25519"), ("key_id", .string "key-1")] ++ signature)),
        ("signer", .string "did:example:agent-1"),
        ("version", .string "draft-01")])]),
      ("arguments", .object [("text", .string "hello")]),
      ("name", .string "echo")])]

def vectorSignature : String :=
  "YfVzF8oc261RzdlpCExhe6QDV3Dvw_4afpW7B1AYwnvftViqpykjgDaWU8q1BVMOmyNAeR7ZZe8sRuadjDdbDw"

def vectorKey : String := "iojj3XQJ8ZX9UtstPLpdcspnCb8dlBIb83SIAbQPb1w"

/-- Canonical bytes of a value that has some. -/
def bytesOf (value : Value) : Bytes := (canonicalizeJsonValue value).toOption.getD []

def vectorBytes : Bytes := bytesOf (vectorRequest [("value", .string vectorSignature)])

/-- The conformance vector's signature as the one known answer. -/
@[reducible] def vectorCrates : Crates :=
  referenceCrates "JHosIIT-pj5x4AJwqFH82HxDaBFxJV-XzeCGioieN1A"
    [⟨vectorKey, bytesOf (vectorRequest []), vectorSignature⟩] []

/-- A resolver that binds the conformance vector's signer to its key. -/
def vectorResolver : TrustResolver := fun signer keyId =>
  if signer = "did:example:agent-1" && keyId = "key-1" then
    (b64urlDecodeText vectorKey).elim (.error .malformedKey) fun key => .ok ⟨key⟩
  else .error .notFound

def vectorConfig : VerificationConfig := ⟨"did:example:server-1", 300⟩

/-- What verification makes of the conformance vector. -/
def vectorVerified : VerifiedRequest where
  verifiedSigner := "did:example:agent-1"
  keyId := "key-1"
  onBehalfOf := "did:example:user-1"
  audience := "did:example:server-1"
  authorization := .draft01Hash "sha256:RBNvo1WzZ4oRRq0W9-hknpT7T8If536DEMBg9hyq_4o"
  nonce := "Zm9vYmFyYmF6cXV4MTIzNDU2Nzg5MA"
  issuedAt := "2026-05-28T20:00:00Z"
  expiresAt := "2026-05-28T20:05:00Z"
  canonicalizationId := none
  requestHash := "sha256:JHosIIT-pj5x4AJwqFH82HxDaBFxJV-XzeCGioieN1A"

end Mcps
