import Mcps.Proxy.Transport

/-!
# Answers of an OCSP responder

The proxy asks a responder whether the client's certificate is revoked, and believes the
answer after five checks: who signed it, that the signer is the responder it names, the
nonce, the certificate it is about and its age.  Decoding, encoding and the verification of
signatures belong to other crates and are parameters here.
-/

namespace Mcps.Proxy.Ocsp

/-! ## Time -/

/-- The nanoseconds of `Duration::MAX`. -/
def durationMax : Nat := u64Max * 1000000000 + 999999999

/-- `std::time::Duration`, as its nanoseconds. -/
structure Duration where
  nanos : Nat
  bounded : nanos ≤ durationMax
  deriving DecidableEq

namespace Duration

def fromSecs (secs : UInt64) : Duration :=
  ⟨secs.toNat * 1000000000, by
    have small := secs.toNat_lt
    unfold durationMax u64Max
    omega⟩

def asSecs (duration : Duration) : Nat := duration.nanos / 1000000000

def saturatingAdd (left right : Duration) : Duration :=
  ⟨min durationMax (left.nanos + right.nanos), Nat.min_le_left _ _⟩

def min (left right : Duration) : Duration :=
  ⟨Min.min left.nanos right.nanos, (Nat.min_le_left _ _).trans left.bounded⟩

end Duration

/-- `std::time::SystemTime`, as its nanoseconds from the Unix epoch: the seconds are a signed
64-bit integer. -/
structure SystemTime where
  nanos : Int
  lower : i64Min * 1000000000 ≤ nanos
  upper : nanos < (i64Max + 1) * 1000000000

theorem SystemTime.toNat_le (now : SystemTime) : now.nanos.toNat ≤ durationMax := by
  have upper := now.upper
  unfold i64Max at upper
  unfold durationMax u64Max
  omega

def systemTimeToUnix (now : SystemTime) : Option Duration :=
  if now.nanos < 0 then none else some ⟨now.nanos.toNat, now.toNat_le⟩

/-- `secs as i64`. -/
def asI64 (secs : Nat) : Int := if secs < 2 ^ 63 then secs else secs - 2 ^ 64

/-! ## SHA-1 -/

/-- `chunks_exact`. -/
def chunksExact (size : Nat) (bytes : Bytes) : List Bytes :=
  (List.range (bytes.length / size)).map fun i => (bytes.drop (size * i)).take size

/-- `u32::from_be_bytes`. -/
def u32FromBeBytes (word : Bytes) : UInt32 :=
  word.foldl (fun read byte => read <<< 8 ||| byte.toUInt32) 0

/-- The words of a block, and the 64 that are mixed from them. -/
def sha1Schedule (chunk : Bytes) : List UInt32 :=
  (List.range' 16 64).foldl
    (fun w i =>
      let mixed := w.getD (i - 3) 0 ^^^ w.getD (i - 8) 0 ^^^ w.getD (i - 14) 0 ^^^
        w.getD (i - 16) 0
      w ++ [mixed <<< 1 ||| mixed >>> 31])
    ((chunksExact 4 chunk).map u32FromBeBytes)

structure Sha1State where
  a : UInt32
  b : UInt32
  c : UInt32
  d : UInt32
  e : UInt32

def sha1Round (state : Sha1State) (step : UInt32 × Nat) : Sha1State :=
  let ⟨a, b, c, d, e⟩ := state
  let (wi, i) := step
  let (f, k) : UInt32 × UInt32 :=
    if i ≤ 19 then (b &&& c ||| ~~~b &&& d, 0x5A827999)
    else if i ≤ 39 then (b ^^^ c ^^^ d, 0x6ED9EBA1)
    else if i ≤ 59 then (b &&& c ||| b &&& d ||| c &&& d, 0x8F1BBCDC)
    else (b ^^^ c ^^^ d, 0xCA62C1D6)
  ⟨(a <<< 5 ||| a >>> 27) + f + e + k + wi, a, b <<< 30 ||| b >>> 2, c, d⟩

def sha1Chunk (h : Sha1State) (chunk : Bytes) : Sha1State :=
  let mixed := (sha1Schedule chunk).zipIdx.foldl sha1Round h
  ⟨h.a + mixed.a, h.b + mixed.b, h.c + mixed.c, h.d + mixed.d, h.e + mixed.e⟩

/-- Zeros up to 56 bytes of the last block. -/
def fillBlock (msg : Bytes) : Bytes :=
  if msg.length % 64 ≠ 56 then fillBlock (msg ++ [0]) else msg
  termination_by (120 - msg.length % 64) % 64
  decreasing_by
    rw [List.length_append, List.length_singleton]
    omega

theorem fillBlock_eq (msg : Bytes) :
    fillBlock msg = msg ++ List.replicate ((120 - msg.length % 64) % 64) 0 := by
  induction msg using fillBlock.induct with
  | case1 msg unfilled ih =>
    have fewer : (120 - msg.length % 64) % 64 = (120 - (msg ++ [0]).length % 64) % 64 + 1 := by
      rw [List.length_append, List.length_singleton]
      omega
    rw [fillBlock, if_pos unfilled, ih, fewer, List.append_assoc]
    rfl
  | case2 msg filled =>
    rw [fillBlock, not_not.mp filled]
    simp

/-- The message, the bit `1`, zeros, and the length in bits. -/
def sha1Message (data : Bytes) : Bytes :=
  fillBlock (data ++ [0x80]) ++ toBeBytes (data.length * 8)

def sha1Hash (data : Bytes) : Bytes :=
  let h := (chunksExact 64 (sha1Message data)).foldl sha1Chunk
    ⟨0x67452301, 0xEFCDAB89, 0x98BADCFE, 0x10325476, 0xC3D2E1F0⟩
  [h.a, h.b, h.c, h.d, h.e].flatMap fun word : UInt32 =>
    [(word >>> 24).toUInt8, (word >>> 16).toUInt8, (word >>> 8).toUInt8, word.toUInt8]

example : sha1Hash [0x61, 0x62, 0x63] =
    [0xa9, 0x99, 0x3e, 0x36, 0x47, 0x06, 0x81, 0x6a, 0xba, 0x3e, 0x25, 0x71, 0x78, 0x50, 0xc2,
      0x6c, 0x9c, 0xd0, 0xd8, 0x9d] := by
  rw [sha1Hash, sha1Message, fillBlock_eq]
  decide +kernel

/-! ## Certificates and responses -/

/-- An object identifier, as its arcs. -/
abbrev ObjectIdentifier := List Nat

def toIdString (oid : ObjectIdentifier) : String :=
  ".".intercalate (oid.map toString)

def idKpOcspSigning : String := "1.3.6.1.5.5.7.3.9"

/-- An algorithm; its parameters are any DER value. -/
structure AlgorithmIdentifier where
  oid : ObjectIdentifier
  parameters : Option Bytes
  deriving DecidableEq

structure BitString where
  unusedBits : Nat
  rawBytes : Bytes
  deriving DecidableEq

structure SubjectPublicKeyInfo where
  algorithm : AlgorithmIdentifier
  subjectPublicKey : BitString
  deriving DecidableEq

/-- A distinguished name: in each place, a set of attributes and their values. -/
abbrev Name := List (List (ObjectIdentifier × Bytes))

/-- A certificate as `x509_cert` holds it; what is not read of it is kept as its bytes. -/
structure Certificate where
  subject : Name
  subjectPublicKeyInfo : SubjectPublicKeyInfo
  remainder : Bytes
  deriving DecidableEq

/-- A certificate as `x509_parser` reads it, with the times of its validity in seconds. -/
structure X509Certificate where
  tbsCertificate : Bytes
  signatureAlgorithm : AlgorithmIdentifier
  signatureValue : BitString
  publicKey : SubjectPublicKeyInfo
  notBefore : Int
  notAfter : Int

/-- What `x509_parser` makes of an extended key usage, as far as it is asked for. -/
structure ExtendedKeyUsage where
  ocspSigning : Bool
  other : List ObjectIdentifier

inductive ResponderId where
  | byName (name : Name)
  | byKey (keyHash : Bytes)
  deriving DecidableEq

structure CertId where
  hashAlgorithm : AlgorithmIdentifier
  issuerNameHash : Bytes
  issuerKeyHash : Bytes
  serialNumber : Bytes
  deriving DecidableEq

inductive CertStatus where
  | good
  | revoked
  | unknown
  deriving DecidableEq

/-- An answer about one certificate; its times are durations since the Unix epoch. -/
structure SingleResponse where
  certId : CertId
  certStatus : CertStatus
  thisUpdate : Duration
  nextUpdate : Option Duration
  deriving DecidableEq

/-- The signed part of a response; what is not read of it is kept as its bytes. -/
structure ResponseData where
  responderId : ResponderId
  responses : List SingleResponse
  remainder : Bytes
  deriving DecidableEq

structure BasicOcspResponse where
  tbsResponseData : ResponseData
  signatureAlgorithm : AlgorithmIdentifier
  signature : BitString
  certs : Option (List Certificate)

inductive OcspResponseStatus where
  | successful
  | malformedRequest
  | internalError
  | tryLater
  | sigRequired
  | unauthorized
  deriving DecidableEq

/-- A response: its status, and the bytes of what it carries. -/
structure OcspResponse where
  responseStatus : OcspResponseStatus
  responseBytes : Option Bytes

/-- What the crates for DER, certificates and signatures compute. -/
class OcspCrates where
  ocspResponseFromDer : Bytes → Except String OcspResponse
  basicOcspResponseFromDer : Bytes → Except String BasicOcspResponse
  responseDataToDer : ResponseData → Except String Bytes
  algorithmToDer : AlgorithmIdentifier → Except String Bytes
  algorithmFromDer : Bytes → Except String AlgorithmIdentifier
  certificateToDer : Certificate → Except String Bytes
  certificateFromDer : Bytes → Except String Certificate
  x509FromDer : Bytes → Except String X509Certificate
  nameToDer : Name → Except String Bytes
  /-- `X509Certificate::extended_key_usage`, without the extension's mark of being critical. -/
  extendedKeyUsage : X509Certificate → Except String (Option ExtendedKeyUsage)
  /-- `BasicOcspResponse::nonce`. -/
  nonce : BasicOcspResponse → Option Bytes
  /-- Whether the calendar of `ASN1Time` has this second. -/
  asn1HasTimestamp : Int → Bool
  verifySignature : SubjectPublicKeyInfo → AlgorithmIdentifier → BitString → Bytes → Bool

/-! ## The checks -/

inductive OcspError where
  | decodeResponse (detail : String)
  | responderStatus (status : OcspResponseStatus)
  | malformedResponse (detail : String)
  | signatureNotVerified (detail : String)
  | responderIdentityMismatch (detail : String)
  | certIdMismatch
  | notFresh (detail : String)
  | nonceMismatch
  deriving DecidableEq

inductive CertRevocationStatus where
  | good
  | revoked
  | unknown
  deriving DecidableEq

def ocspFreshnessSkew : Duration := .fromSecs 300

def ocspMaxResponseAge : Duration := .fromSecs 86400

def mapCertStatus : CertStatus → CertRevocationStatus
  | .good => .good
  | .revoked => .revoked
  | .unknown => .unknown

def certIdsBind (a b : CertId) : Bool :=
  a.hashAlgorithm.oid = b.hashAlgorithm.oid && a.issuerNameHash = b.issuerNameHash &&
    a.issuerKeyHash = b.issuerKeyHash && a.serialNumber = b.serialNumber

def selectMatchingSingleResponse (basic : BasicOcspResponse) (expected : CertId) :
    Option SingleResponse :=
  basic.tbsResponseData.responses.find? fun single => certIdsBind single.certId expected

/-- The end of an answer without the skew: `nextUpdate` if there is one, but no later than
the greatest age. -/
def SingleResponse.upper (single : SingleResponse) (maxAge : Duration) : Duration :=
  let ageCap := single.thisUpdate.saturatingAdd maxAge
  match single.nextUpdate with
  | some next => next.min ageCap
  | none => ageCap

def isFresh (single : SingleResponse) (now : SystemTime) (skew maxAge : Duration) : Bool :=
  match systemTimeToUnix now with
  | none => false
  | some nowUnix =>
    if (nowUnix.saturatingAdd skew).nanos < single.thisUpdate.nanos then false
    else if nowUnix.nanos > ((single.upper maxAge).saturatingAdd skew).nanos then false
    else true

section

variable [OcspCrates]

open OcspCrates

def nonceOk (basic : BasicOcspResponse) (requestNonce : Bytes) : Bool :=
  match nonce basic with
  | none => true
  | some echoed => echoed = requestNonce

def responderIdMatches (responderId : ResponderId) (signerCertDer : Bytes) : Bool :=
  match certificateFromDer signerCertDer with
  | .error _ => false
  | .ok signer =>
    match responderId with
    | .byName name =>
      match nameToDer name, nameToDer signer.subject with
      | .ok a, .ok b => a = b
      | _, _ => false
    | .byKey keyHash =>
      keyHash = sha1Hash signer.subjectPublicKeyInfo.subjectPublicKey.rawBytes

def signatureVerifies (signerCertDer sigAlgDer sigBytes signedDer : Bytes) :
    Except OcspError Bool := do
  let signer ← (x509FromDer signerCertDer).mapError fun e =>
    .signatureNotVerified ("signer cert parse: " ++ e)
  let sigAlg ← (algorithmFromDer sigAlgDer).mapError fun e =>
    .signatureNotVerified ("signature algorithm parse: " ++ e)
  return verifySignature signer.publicKey sigAlg ⟨0, sigBytes⟩ signedDer

def certIsSignedBy (child issuer : X509Certificate) : Except OcspError Bool :=
  return verifySignature issuer.publicKey child.signatureAlgorithm child.signatureValue
    child.tbsCertificate

/-- Whether the certificate lists the purpose of signing OCSP responses. -/
def hasOcspEku (cert : X509Certificate) : Bool :=
  match extendedKeyUsage cert with
  | .ok (some eku) =>
    eku.ocspSigning || eku.other.any fun oid => toIdString oid = idKpOcspSigning
  | _ => false

def delegatedResponderIsValid (certDer issuerDer : Bytes) (now : SystemTime) :
    Except OcspError Bool := do
  let cert ← (x509FromDer certDer).mapError fun e =>
    .signatureNotVerified ("delegated cert parse: " ++ e)
  match systemTimeToUnix now with
  | none => return false
  | some nowUnix =>
    let nowAsn1 := asI64 nowUnix.asSecs
    if !asn1HasTimestamp nowAsn1 then return false
    if !(cert.notBefore ≤ nowAsn1 && nowAsn1 ≤ cert.notAfter) then return false
    if !hasOcspEku cert then return false
    let issuer ← (x509FromDer issuerDer).mapError fun e =>
      .signatureNotVerified ("issuer parse: " ++ e)
    certIsSignedBy cert issuer

/-- The first certificate of the response that is a valid responder and whose key verifies. -/
def delegatedSigner (issuerDer : Bytes) (now : SystemTime) (sigAlgDer sigBytes tbsDer : Bytes) :
    List Certificate → Except OcspError Bytes
  | [] => throw (.signatureNotVerified
      "no issuer or delegated id-kp-OCSPSigning responder key verified the signature")
  | cert :: certs => do
    let certDer ← (certificateToDer cert).mapError fun e =>
      .signatureNotVerified ("responder cert DER: " ++ e)
    if !(← delegatedResponderIsValid certDer issuerDer now) then
      delegatedSigner issuerDer now sigAlgDer sigBytes tbsDer certs
    else if ← signatureVerifies certDer sigAlgDer sigBytes tbsDer then
      return certDer
    else
      delegatedSigner issuerDer now sigAlgDer sigBytes tbsDer certs

/-- The certificate whose key verified the signature of the response. -/
def verifyResponderSignature (basic : BasicOcspResponse) (issuerDer : Bytes) (now : SystemTime) :
    Except OcspError Bytes := do
  let tbsDer ← (responseDataToDer basic.tbsResponseData).mapError fun e =>
    .signatureNotVerified ("re-encode tbs: " ++ e)
  let sigAlgDer ← (algorithmToDer basic.signatureAlgorithm).mapError fun e =>
    .signatureNotVerified ("re-encode sigalg: " ++ e)
  let sigBytes := basic.signature.rawBytes
  if ← signatureVerifies issuerDer sigAlgDer sigBytes tbsDer then
    return issuerDer
  else
    delegatedSigner issuerDer now sigAlgDer sigBytes tbsDer (basic.certs.getD [])

def verifyAndMapResponse (responseDer issuerDer : Bytes) (expectedCertId : CertId)
    (requestNonce : Bytes) (now : SystemTime) : Except OcspError CertRevocationStatus := do
  let response ← (ocspResponseFromDer responseDer).mapError .decodeResponse
  if response.responseStatus ≠ .successful then throw (.responderStatus response.responseStatus)
  let responseBytes ← response.responseBytes.okOr
    (.malformedResponse "successful response with no bytes")
  let basic ← (basicOcspResponseFromDer responseBytes).mapError fun e =>
    .malformedResponse ("not a BasicOCSPResponse: " ++ e)
  let signer ← verifyResponderSignature basic issuerDer now
  if !responderIdMatches basic.tbsResponseData.responderId signer then
    throw (.responderIdentityMismatch "responder_id does not match the signing certificate")
  if !nonceOk basic requestNonce then throw .nonceMismatch
  let single ← (selectMatchingSingleResponse basic expectedCertId).okOr .certIdMismatch
  if !isFresh single now ocspFreshnessSkew ocspMaxResponseAge then
    throw (.notFresh ("response not fresh: now outside [thisUpdate - skew, upper + skew], " ++
      "where upper = min(nextUpdate, thisUpdate + max_response_age)"))
  return mapCertStatus single.certStatus

end

/-! ## The decision -/

/-- Whether the connection is allowed with this status. -/
def decideAllow (status : CertRevocationStatus) (softFail : Bool) : Bool :=
  match status with
  | .good => true
  | .revoked => false
  | .unknown => softFail

/-- What `ocsp_rejection` makes of a check: an error counts as an unknown status. -/
def allowsChecked (softFail : Bool) : Except OcspError CertRevocationStatus → Bool
  | .ok status => decideAllow status softFail
  | .error _ => decideAllow .unknown softFail

theorem allowsChecked_hardFail {checked : Except OcspError CertRevocationStatus} :
    allowsChecked false checked = true ↔ checked = .ok .good := by
  cases checked with
  | error e => simp [allowsChecked, decideAllow]
  | ok status => cases status <;> simp [allowsChecked, decideAllow]

end Mcps.Proxy.Ocsp
