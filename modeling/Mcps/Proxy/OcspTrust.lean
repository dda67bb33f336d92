import Mcps.Core.Reference
import Mcps.Proxy.OcspResponse

/-!
# What a good answer rests on

If the answer is `Good`, every check was made about one response, one signer and one answer
in it.  The checks are first read back one by one, the loop over the certificates of the
response by induction on them, and then put together for the whole function.
-/

namespace Mcps.Proxy.Ocsp

open List Except

/-! ## Age -/

/-- Until when an answer counts without the skew, in exact arithmetic. -/
def SingleResponse.exactUpper (single : SingleResponse) (maxAge : Duration) : Nat :=
  match single.nextUpdate with
  | some next => min next.nanos (single.thisUpdate.nanos + maxAge.nanos)
  | none => single.thisUpdate.nanos + maxAge.nanos

theorem SingleResponse.nanos_upper (single : SingleResponse) (maxAge : Duration) :
    (single.upper maxAge).nanos = min durationMax (single.exactUpper maxAge) := by
  unfold upper exactUpper
  cases single.nextUpdate with
  | none => rfl
  | some next =>
    simp only [Duration.min, Duration.saturatingAdd]
    omega

/-- `now` is not before `thisUpdate - skew` nor after the end of the answer and the skew. -/
def FreshAt (single : SingleResponse) (now : SystemTime) (skew maxAge : Duration) : Prop :=
  (single.thisUpdate.nanos : Int) - skew.nanos ≤ now.nanos ∧
    now.nanos ≤ single.exactUpper maxAge + skew.nanos

variable {single : SingleResponse}

theorem isFresh_iff {now : SystemTime} {skew maxAge : Duration} :
    isFresh single now skew maxAge = true ↔
      0 ≤ now.nanos ∧ FreshAt single now skew maxAge := by
  have bounded := now.toNat_le
  have started := single.thisUpdate.bounded
  unfold isFresh systemTimeToUnix FreshAt
  by_cases before : now.nanos < 0
  · simp only [before, if_true, Bool.false_eq_true, false_iff]
    omega
  · simp only [before, if_false, Duration.saturatingAdd,
      SingleResponse.nanos_upper, Bool.if_false_left, Bool.and_true, Bool.and_eq_true,
      Bool.not_eq_true', decide_eq_false_iff_not]
    omega

/-! ## The signer -/

/-- The whole second a time is in. -/
def SystemTime.second (now : SystemTime) : Int := now.nanos / 1000000000

theorem asI64_asSecs {now : SystemTime} {unix : Duration}
    (since : systemTimeToUnix now = some unix) : asI64 unix.asSecs = now.second := by
  have upper := now.upper
  unfold systemTimeToUnix at since
  split at since
  next => cases since
  next after =>
    cases since
    unfold i64Max at upper
    unfold asI64 Duration.asSecs SystemTime.second
    simp only
    split <;> omega

/-- The responder is named by the subject of the certificate or by the hash of its key. -/
def ResponderId.Names : ResponderId → Certificate → Prop
  | .byName name, signer => name = signer.subject
  | .byKey keyHash, signer =>
    keyHash = sha1Hash signer.subjectPublicKeyInfo.subjectPublicKey.rawBytes

/-- Two ids of one certificate, whatever the parameters of the hash. -/
structure CertId.SameCertificate (left right : CertId) : Prop where
  hash : left.hashAlgorithm.oid = right.hashAlgorithm.oid
  issuerName : left.issuerNameHash = right.issuerNameHash
  issuerKey : left.issuerKeyHash = right.issuerKeyHash
  serial : left.serialNumber = right.serialNumber

theorem certIdsBind_iff {left right : CertId} :
    certIdsBind left right = true ↔ left.SameCertificate right := by
  simp only [certIdsBind, Bool.and_eq_true, decide_eq_true_eq]
  constructor
  · rintro ⟨⟨⟨hash, name⟩, key⟩, serial⟩
    exact ⟨hash, name, key, serial⟩
  · intro same
    exact ⟨⟨⟨same.hash, same.issuerName⟩, same.issuerKey⟩, same.serial⟩

theorem selectMatchingSingleResponse_eq_some {basic : BasicOcspResponse} {expected : CertId}
    (found : selectMatchingSingleResponse basic expected = some single) :
    single ∈ basic.tbsResponseData.responses ∧ single.certId.SameCertificate expected := by
  have bound := find?_some found
  exact ⟨mem_of_find?_eq_some found, certIdsBind_iff.mp bound⟩

theorem mapCertStatus_eq_good {status : CertStatus} :
    mapCertStatus status = .good ↔ status = .good := by
  cases status <;> simp [mapCertStatus]

section

variable [OcspCrates]

open OcspCrates

/-- What certificates and responses say: which key signed which bytes, which purposes a
certificate lists, and which nonce a response echoes. -/
structure OcspMeaning where
  signs : SubjectPublicKeyInfo → Bytes → Prop
  lists : X509Certificate → ObjectIdentifier → Prop
  echoes : BasicOcspResponse → Bytes → Prop

/-- What is relied on in the other crates: a signature that verifies was made with the key, the
two readers of certificates and the writer agree about a certificate and a name, an extended
key usage holds purposes that the certificate lists, and an echoed nonce is returned. -/
structure CratesCorrect (meaning : OcspMeaning) : Prop where
  signed : ∀ {key algorithm signature message},
    verifySignature key algorithm signature message = true → meaning.signs key message
  written : ∀ {cert read : Certificate} {der},
    certificateToDer cert = .ok der → certificateFromDer der = .ok read → read = cert
  parsed : ∀ {der} {cert : X509Certificate} {read : Certificate}, x509FromDer der = .ok cert →
    certificateFromDer der = .ok read → cert.publicKey = read.subjectPublicKeyInfo
  named : ∀ {left right : Name} {der}, nameToDer left = .ok der → nameToDer right = .ok der →
    left = right
  flagged : ∀ {cert usage}, extendedKeyUsage cert = .ok (some usage) →
    usage.ocspSigning = true → meaning.lists cert [1, 3, 6, 1, 5, 5, 7, 3, 9]
  listed : ∀ {cert usage oid}, extendedKeyUsage cert = .ok (some usage) →
    oid ∈ usage.other → meaning.lists cert oid
  echoed : ∀ {basic value}, meaning.echoes basic value → nonce basic = some value

variable {meaning : OcspMeaning}

theorem lists_of_hasOcspEku (correct : CratesCorrect meaning) {cert : X509Certificate}
    (purpose : hasOcspEku cert = true) :
    ∃ oid, toIdString oid = idKpOcspSigning ∧ meaning.lists cert oid := by
  unfold hasOcspEku at purpose
  split at purpose
  next usage read =>
    rcases Bool.or_eq_true_iff.mp purpose with flag | other
    · exact ⟨_, by decide +kernel, correct.flagged read flag⟩
    · obtain ⟨oid, member, same⟩ := any_eq_true.mp other
      exact ⟨oid, of_decide_eq_true same, correct.listed read member⟩
  next => cases purpose

variable {signerDer : Bytes}

theorem signatureVerifies_eq_true {sigAlgDer sigBytes signedDer : Bytes}
    (verified : signatureVerifies signerDer sigAlgDer sigBytes signedDer = .ok true) :
    ∃ signer sigAlg, x509FromDer signerDer = .ok signer ∧
      verifySignature signer.publicKey sigAlg ⟨0, sigBytes⟩ signedDer = true := by
  obtain ⟨signer, read, verified⟩ := bind_eq_ok.mp verified
  obtain ⟨sigAlg, _, verified⟩ := bind_eq_ok.mp verified
  exact ⟨signer, sigAlg, mapError_eq_ok.mp read, ok.inj verified⟩

/-- A certificate the issuer delegated its answers to, in its validity at the second of
`now`. -/
structure Delegated (meaning : OcspMeaning) (issuerDer certDer : Bytes) (now : SystemTime)
    (cert issuer : X509Certificate) : Prop where
  readCert : x509FromDer certDer = .ok cert
  readIssuer : x509FromDer issuerDer = .ok issuer
  notBefore : cert.notBefore ≤ now.second
  notAfter : now.second ≤ cert.notAfter
  purpose : ∃ oid, toIdString oid = idKpOcspSigning ∧ meaning.lists cert oid
  signed : meaning.signs issuer.publicKey cert.tbsCertificate

variable {issuerDer : Bytes} {now : SystemTime}

theorem delegated_of_isValid (correct : CratesCorrect meaning) {certDer : Bytes}
    (valid : delegatedResponderIsValid certDer issuerDer now = .ok true) :
    ∃ cert issuer, Delegated meaning issuerDer certDer now cert issuer := by
  obtain ⟨cert, readCert, valid⟩ := bind_eq_ok.mp valid
  cases since : systemTimeToUnix now with
  | none =>
    rw [since] at valid
    cases valid
  | some unix =>
    simp only [since, asI64_asSecs since] at valid
    split at valid
    next => cases valid
    next =>
      split at valid
      next => cases valid
      next inside =>
        split at valid
        next => cases valid
        next purpose =>
          obtain ⟨issuer, readIssuer, signed⟩ := bind_eq_ok.mp valid
          simp only [Bool.not_eq_true', Bool.not_eq_false, Bool.and_eq_true,
            decide_eq_true_eq] at inside purpose
          exact ⟨cert, issuer, mapError_eq_ok.mp readCert,
            mapError_eq_ok.mp readIssuer, inside.1, inside.2,
            lists_of_hasOcspEku correct purpose, correct.signed (ok.inj signed)⟩

/-- The certificate is the issuer's, or one of the response that the issuer delegated to. -/
def Authorized (meaning : OcspMeaning) (issuerDer : Bytes) (now : SystemTime)
    (certs : List Certificate) (signerDer : Bytes) : Prop :=
  signerDer = issuerDer ∨
    ∃ cert ∈ certs, certificateToDer cert = .ok signerDer ∧
      ∃ parsed issuer, Delegated meaning issuerDer signerDer now parsed issuer

theorem Authorized.cons {certs : List Certificate} (first : Certificate)
    (authorized : Authorized meaning issuerDer now certs signerDer) :
    Authorized meaning issuerDer now (first :: certs) signerDer := by
  cases authorized with
  | inl same => exact .inl same
  | inr delegated =>
    obtain ⟨cert, member, rest⟩ := delegated
    exact .inr ⟨cert, mem_cons_of_mem _ member, rest⟩

theorem delegatedSigner_eq_ok (correct : CratesCorrect meaning) {sigAlgDer sigBytes tbsDer : Bytes}
    {certs : List Certificate}
    (found : delegatedSigner issuerDer now sigAlgDer sigBytes tbsDer certs = .ok signerDer) :
    Authorized meaning issuerDer now certs signerDer ∧
      signatureVerifies signerDer sigAlgDer sigBytes tbsDer = .ok true := by
  induction certs with
  | nil => cases found
  | cons cert certs ih =>
    obtain ⟨_, written, found⟩ := bind_eq_ok.mp found
    obtain ⟨valid, judged, found⟩ := bind_eq_ok.mp found
    cases valid with
    | false =>
      obtain ⟨authorized, verified⟩ := ih found
      exact ⟨authorized.cons cert, verified⟩
    | true =>
      obtain ⟨verifies, verified, found⟩ := bind_eq_ok.mp found
      cases verifies with
      | false =>
        obtain ⟨authorized, verified⟩ := ih found
        exact ⟨authorized.cons cert, verified⟩
      | true =>
        cases found
        exact ⟨.inr ⟨cert, mem_cons_self, mapError_eq_ok.mp written,
          delegated_of_isValid correct judged⟩, verified⟩

variable {basic : BasicOcspResponse}

theorem verifyResponderSignature_eq_ok (correct : CratesCorrect meaning)
    (found : verifyResponderSignature basic issuerDer now = .ok signerDer) :
    Authorized meaning issuerDer now (basic.certs.getD []) signerDer ∧
      ∃ tbsDer signer, responseDataToDer basic.tbsResponseData = .ok tbsDer ∧
        x509FromDer signerDer = .ok signer ∧ meaning.signs signer.publicKey tbsDer := by
  simp only [verifyResponderSignature, bind_eq_ok] at found
  obtain ⟨tbsDer, encoded, sigAlgDer, _, direct, verified, found⟩ := found
  have either : Authorized meaning issuerDer now (basic.certs.getD []) signerDer ∧
      signatureVerifies signerDer sigAlgDer basic.signature.rawBytes tbsDer = .ok true := by
    cases direct with
    | true =>
      cases found
      exact ⟨.inl rfl, verified⟩
    | false => exact delegatedSigner_eq_ok correct found
  obtain ⟨signer, _, parsed, verified⟩ := signatureVerifies_eq_true either.2
  exact ⟨either.1, tbsDer, signer, mapError_eq_ok.mp encoded, parsed,
    correct.signed verified⟩

theorem names_of_responderIdMatches (correct : CratesCorrect meaning) {responderId : ResponderId}
    (same : responderIdMatches responderId signerDer = true) :
    ∃ signer, certificateFromDer signerDer = .ok signer ∧ responderId.Names signer := by
  unfold responderIdMatches at same
  split at same
  next => cases same
  next signer read =>
    refine ⟨signer, read, ?_⟩
    cases responderId with
    | byKey keyHash =>
      simp only [decide_eq_true_eq] at same
      exact same
    | byName name =>
      simp only at same
      split at same
      next a b left right =>
        have equal : a = b := of_decide_eq_true same
        rw [equal] at left
        exact correct.named left right
      next => cases same

theorem nonceOk_iff {requestNonce : Bytes} :
    nonceOk basic requestNonce = true ↔
      ∀ echoed, nonce basic = some echoed → echoed = requestNonce := by
  unfold nonceOk
  cases nonce basic with
  | none | some _ => simp

/-! ## The answer -/

/-- A response that may be believed about a certificate: its signer is the issuer or one of
its own certificates that the issuer delegated to, it names that signer, its nonce is the
one asked with, and it has a fresh answer. -/
structure Trustworthy (meaning : OcspMeaning) (issuerDer : Bytes)
    (expected : CertId) (requestNonce : Bytes) (now : SystemTime) (basic : BasicOcspResponse)
    (signerDer tbsDer : Bytes) (signer : Certificate) (single : SingleResponse) : Prop where
  read : certificateFromDer signerDer = .ok signer
  authorized : signerDer = issuerDer ∨ signer ∈ basic.certs.getD [] ∧
    ∃ cert issuer, Delegated meaning issuerDer signerDer now cert issuer
  encoded : responseDataToDer basic.tbsResponseData = .ok tbsDer
  signed : meaning.signs signer.subjectPublicKeyInfo tbsDer
  named : basic.tbsResponseData.responderId.Names signer
  nonce : ∀ echoed, meaning.echoes basic echoed → echoed = requestNonce
  member : single ∈ basic.tbsResponseData.responses
  certificate : single.certId.SameCertificate expected
  fresh : FreshAt single now ocspFreshnessSkew ocspMaxResponseAge

/-- The bytes are a successful response that may be believed, with this answer. -/
def Reports (meaning : OcspMeaning) (responseDer issuerDer : Bytes) (expected : CertId)
    (requestNonce : Bytes) (now : SystemTime) (status : CertStatus) : Prop :=
  ∃ response bytes basic signerDer tbsDer signer single,
    ocspResponseFromDer responseDer = .ok response ∧ response.responseStatus = .successful ∧
    response.responseBytes = some bytes ∧ basicOcspResponseFromDer bytes = .ok basic ∧
    Trustworthy meaning issuerDer expected requestNonce now basic signerDer tbsDer signer
      single ∧
    single.certStatus = status

/-- Every status the function returns comes from a trustworthy response. -/
theorem reports_of_eq_ok (correct : CratesCorrect meaning) {responseDer requestNonce : Bytes}
    {expected : CertId} {status : CertRevocationStatus}
    (returned : verifyAndMapResponse responseDer issuerDer expected requestNonce now = .ok status) :
    ∃ answer, Reports meaning responseDer issuerDer expected requestNonce now answer ∧
      mapCertStatus answer = status := by
  simp only [verifyAndMapResponse, throw_eq_error, bind_error, bind_eq_ok, guard_eq_ok,
    mapError_eq_ok, Option.okOr_eq_ok, Bool.not_eq_true', Bool.not_eq_false, Decidable.not_not]
    at returned
  obtain ⟨response, decoded, successful, bytes, carried, basic, readBasic, signerDer, verified,
    matched, nonce, single, selected, fresh, returned⟩ := returned
  obtain ⟨authorized, tbsDer, _, encoded, parsed, signed⟩ :=
    verifyResponderSignature_eq_ok correct verified
  obtain ⟨signer, read, named⟩ := names_of_responderIdMatches correct matched
  obtain ⟨member, certificate⟩ :=
    selectMatchingSingleResponse_eq_some selected
  refine ⟨_, ⟨response, bytes, basic, signerDer, tbsDer, signer, single, decoded, successful,
    carried, readBasic, ?_, rfl⟩, ok.inj returned⟩
  exact
    { read
      authorized := by
        cases authorized with
        | inl same => exact .inl same
        | inr delegated =>
          obtain ⟨_, member, written, delegated⟩ := delegated
          rw [correct.written written read]
          exact .inr ⟨member, delegated⟩
      encoded
      signed := by
        rw [← correct.parsed parsed read]
        exact signed
      named
      nonce := fun echoed echoes => nonceOk_iff.mp nonce echoed (correct.echoed echoes)
      member
      certificate
      fresh := (isFresh_iff.mp fresh).2 }

/-- A certificate is reported good only by a trustworthy response with a good answer about
it. -/
theorem verifyAndMapResponse_good {meaning : OcspMeaning} (correct : CratesCorrect meaning)
    {responseDer issuerDer requestNonce : Bytes} {expected : CertId} {now : SystemTime}
    (good : verifyAndMapResponse responseDer issuerDer expected requestNonce now = .ok .good) :
    Reports meaning responseDer issuerDer expected requestNonce now .good := by
  obtain ⟨answer, reports, status⟩ := reports_of_eq_ok correct good
  rwa [← mapCertStatus_eq_good.mp status]

/-- Without soft failure a connection is allowed only on such a response. -/
theorem reports_of_allowsChecked (correct : CratesCorrect meaning)
    {responseDer requestNonce : Bytes} {expected : CertId}
    (allowed : allowsChecked false
      (verifyAndMapResponse responseDer issuerDer expected requestNonce now) = true) :
    Reports meaning responseDer issuerDer expected requestNonce now .good := by
  obtain ⟨answer, reports, status⟩ :=
    reports_of_eq_ok correct (allowsChecked_hardFail.mp allowed)
  rwa [← mapCertStatus_eq_good.mp status]

end

/-! ## A delegated answer

An authority, a responder it delegated to until a Thursday at eight, and an answer of the
responder an hour before: their DER, with ECDSA signatures on the curve P-256. -/

def der (text : String) : Bytes := (b64urlDecodeText text).getD []

/-- A value with its tag and length. -/
def tlv (tag : UInt8) (contents : Bytes) : Bytes :=
  let length := contents.length
  tag :: (if length < 128 then [] else if length < 256 then [0x81]
    else [0x82, UInt8.ofNat (length / 256)]) ++ UInt8.ofNat length :: contents

def ecdsaSha256 : AlgorithmIdentifier := ⟨[1, 2, 840, 10045, 4, 3, 2], none⟩

def ecdsaSha256Der : Bytes := der "MAoGCCqGSM49BAMC"

def keyOf (point : Bytes) : SubjectPublicKeyInfo :=
  ⟨⟨[1, 2, 840, 10045, 2, 1], some (der "BggqhkjOPQMBBw")⟩, ⟨0, point⟩⟩

def issuerPoint : Bytes :=
  der "BN8XtFIW9yrhip7mDgIatiztOr7P59mBfRURi_uhKziON_OvnSK8HPz5wHefLJe3C6DRd9qxbOdWlUTup1Fltyk"

def responderPoint : Bytes :=
  der "BKkZEa7EwVnYnSUp9jVKKToTfKzT_ZhP0FU7kVh6JjfB-gr76EiHZnSJEDxywRtRcm9i1fsQclGxSEoFd_XFrqw"

def commonName (text : String) : Name := [[([2, 5, 4, 3], tlv 0x0c (textBytes text))]]

def commonNameDer (text : String) : Bytes :=
  tlv 0x30 (tlv 0x31 (tlv 0x30 ([6, 3, 0x55, 4, 3] ++ tlv 0x0c (textBytes text))))

/-- What a certificate has in front of its subject and behind its key, and its signature. -/
structure CertificateParts where
  head : Bytes
  subject : String
  point : Bytes
  extensions : Bytes
  signature : Bytes

namespace CertificateParts

def tbs (parts : CertificateParts) : Bytes :=
  tlv 0x30 (parts.head ++ commonNameDer parts.subject ++
    tlv 0x30 (der "MBMGByqGSM49AgEGCCqGSM49AwEH" ++ tlv 3 (0 :: parts.point)) ++ parts.extensions)

def der (parts : CertificateParts) : Bytes :=
  tlv 0x30 (parts.tbs ++ ecdsaSha256Der ++ tlv 3 (0 :: parts.signature))

def certificate (parts : CertificateParts) : Certificate :=
  ⟨commonName parts.subject, keyOf parts.point, parts.head ++ parts.extensions ++ parts.signature⟩

def parsed (parts : CertificateParts) (notBefore notAfter : Int) : X509Certificate :=
  ⟨parts.tbs, ecdsaSha256, ⟨0, parts.signature⟩, keyOf parts.point, notBefore, notAfter⟩

end CertificateParts

def issuer : CertificateParts where
  head := der "oAMCAQICAQEwCgYIKoZIzj0EAwIwDTELMAkGA1UEAwwCQ0EwHhcNMjYwMTAxMDAwMDAwWhcNMjcwMTAxMDAwMDAwWg"
  subject := "CA"
  point := issuerPoint
  extensions := []
  signature := der "MEQCIGbZwXRa56yVsVOpDAsn401SuDo2q4sUpAeJm3sjuF8DAiB3uCQHm7V2YdjdurP47qZjTnHLr40wF_IkL5da2DnHNg"

def responder : CertificateParts where
  head := der "oAMCAQICAQMwCgYIKoZIzj0EAwIwDTELMAkGA1UEAwwCQ0EwHhcNMjYwNTI3MjAwMDAwWhcNMjYwNTI4MjAwMDAwWg"
  subject := "ocsp"
  point := responderPoint
  extensions := der "oxcwFTATBgNVHSUEDDAKBggrBgEFBQcDCQ"
  signature := der "MEQCIEAWJzr8kRUoEhnAhtc3uCnrmddyulWI_SDAe6lxCYpEAiA6Oijz6Bq7CpLgMCjDLXfheMbYIlvwmXLhhU6I2y_33g"

def parsedResponder : X509Certificate := responder.parsed 1779912000 1779998400

/-- The id of a certificate, with these parameters of the hash. -/
def certIdWith (parameters : Option Bytes) : CertId where
  hashAlgorithm := ⟨[2, 16, 840, 1, 101, 3, 4, 2, 1], parameters⟩
  issuerNameHash := der "5-TKFx6oz8So9v9pXOo2TumA4asfutYpzac3s4bXtdo"
  issuerKeyHash := der "TFkBe1IXOIzw6m0YFGWhnoVNjUX1IJBob6G3_yTWx5I"
  serialNumber := [2]

def responseSignature : Bytes :=
  der "MEQCICHS95qd-CvohzaZ-AlOOyhV0OX9fKvDpab3jZsSZwneAiBuM3gF_v0w80PXNnRYk6XzK_U1ebZejHlW6r6sUyq0-w"

def delegatedResponse : BasicOcspResponse where
  tbsResponseData :=
    { responderId := .byName (commonName "ocsp")
      responses := [⟨certIdWith none, .good, .fromSecs 1779994800, none⟩]
      remainder := der "GA8yMDI2MDUyODE5MDAwMFo" }
  signatureAlgorithm := ecdsaSha256
  signature := ⟨0, responseSignature⟩
  certs := some [responder.certificate]

def responseTbs : Bytes :=
  der "MIGRoREwDzENMAsGA1UEAwwEb2NzcBgPMjAyNjA1MjgxOTAwMDBaMGswaTBUMAsGCWCGSAFlAwQCAQQg5-TKFx6oz8So9v9pXOo2TumA4asfutYpzac3s4bXtdoEIExZAXtSFziM8OptGBRloZ6FTY1F9SCQaG-ht_8k1seSAgECgAAYDzIwMjYwNTI4MTkwMDAwWg"

def basicDer : Bytes :=
  tlv 0x30 (responseTbs ++ ecdsaSha256Der ++ tlv 3 (0 :: responseSignature) ++
    tlv 0xa0 (tlv 0x30 responder.der))

def responseDer : Bytes :=
  tlv 0x30 ([0x0a, 1, 0] ++ tlv 0xa0 (tlv 0x30 (der "BgkrBgEFBQcwAQE" ++ tlv 4 basicDer)))

/-- The keys, and what they signed. -/
def signatures : List (SubjectPublicKeyInfo × BitString × Bytes) :=
  [(keyOf issuerPoint, ⟨0, issuer.signature⟩, issuer.tbs),
    (keyOf issuerPoint, ⟨0, responder.signature⟩, responder.tbs),
    (keyOf responderPoint, ⟨0, responseSignature⟩, responseTbs)]

def delegatedMeaning : OcspMeaning where
  signs key message := ∃ signature, (key, signature, message) ∈ signatures
  lists cert oid := cert.tbsCertificate = responder.tbs ∧ oid = [1, 3, 6, 1, 5, 5, 7, 3, 9]
  echoes _ _ := False

/-- Look up what a crate makes of one of the values above. -/
def known {κ α : Type} [DecidableEq κ] (table : List (κ × α)) (key : κ) : Except String α :=
  (Assoc.find? key table).okOr "unknown"

def certificates : List (Bytes × Certificate) :=
  [(issuer.der, issuer.certificate), (responder.der, responder.certificate)]

@[reducible] def delegatedCrates : OcspCrates where
  ocspResponseFromDer := known [(responseDer, ⟨.successful, some basicDer⟩)]
  basicOcspResponseFromDer := known [(basicDer, delegatedResponse)]
  responseDataToDer := known [(delegatedResponse.tbsResponseData, responseTbs)]
  algorithmToDer := known [(ecdsaSha256, ecdsaSha256Der)]
  algorithmFromDer := known [(ecdsaSha256Der, ecdsaSha256)]
  certificateToDer := known (certificates.map Prod.swap)
  certificateFromDer := known certificates
  x509FromDer := known
    [(issuer.der, issuer.parsed 1767225600 1798761600), (responder.der, parsedResponder)]
  nameToDer := known (["CA", "ocsp"].map fun text => (commonName text, commonNameDer text))
  extendedKeyUsage cert := .ok (if cert.tbsCertificate = responder.tbs then some ⟨true, []⟩ else none)
  nonce _ := none
  asn1HasTimestamp seconds := -377705116800 ≤ seconds && seconds < 253402300800
  verifySignature key algorithm signature message :=
    algorithm = ecdsaSha256 && (key, signature, message) ∈ signatures

theorem mem_of_known {κ α : Type} [DecidableEq κ] {table : List (κ × α)} {key : κ} {value : α}
    (found : known table key = .ok value) : (key, value) ∈ table :=
  Assoc.mem_of_find? (Option.okOr_eq_ok.mp found)

theorem cratesCorrect_delegated :
    letI := delegatedCrates
    CratesCorrect delegatedMeaning := by
  let crates := delegatedCrates
  have written : ∀ pair ∈ certificates.map Prod.swap, ∀ other ∈ certificates,
      pair.2 = other.1 → other.2 = pair.1 := by
    decide +kernel
  have parsed : ∀ pair ∈ [(issuer.der, issuer.parsed 1767225600 1798761600),
        (responder.der, parsedResponder)], ∀ other ∈ certificates,
      pair.1 = other.1 → pair.2.publicKey = other.2.subjectPublicKeyInfo := by
    decide +kernel
  have named : ∀ left ∈ ["CA", "ocsp"].map fun text => (commonName text, commonNameDer text),
      ∀ right ∈ ["CA", "ocsp"].map fun text => (commonName text, commonNameDer text),
        left.2 = right.2 → left.1 = right.1 := by
    decide +kernel
  constructor
  · intro key algorithm signature message verified
    exact ⟨signature, of_decide_eq_true (Bool.and_eq_true_iff.mp verified).2⟩
  · intro cert read der made readBack
    exact written _ (mem_of_known made) _ (mem_of_known readBack) rfl
  · intro der cert read made readBack
    exact parsed _ (mem_of_known made) _ (mem_of_known readBack) rfl
  · intro left right der made again
    exact named _ (mem_of_known made) _ (mem_of_known again) rfl
  · intro cert usage read flag
    have found := ok.inj read
    split at found
    next same => exact ⟨same, rfl⟩
    next => cases found
  · intro cert usage oid read member
    have found := ok.inj read
    split at found
    next same =>
      cases found
      cases member
    next => cases found
  · rintro basic value ⟨⟩

/-- Half a second after the responder's certificate ended. -/
def halfPast : SystemTime := ⟨1779998400500000000, by decide, by decide⟩

theorem verifyAndMapResponse_delegated :
    @verifyAndMapResponse delegatedCrates responseDer issuer.der (certIdWith (some [5, 0])) [7]
      halfPast = .ok .good := by
  decide +kernel

/-- The answer is taken although its id of the certificate has other parameters of the hash,
and although the only certificate that signed it had ended before `now`. -/
theorem verifyAndMapResponse_other_certId :
    letI := delegatedCrates
    CratesCorrect delegatedMeaning ∧
      verifyAndMapResponse responseDer issuer.der (certIdWith (some [5, 0])) [7] halfPast =
        .ok .good ∧
      (∀ single ∈ delegatedResponse.tbsResponseData.responses,
        single.certId ≠ certIdWith (some [5, 0])) ∧
      ¬ delegatedMeaning.signs (keyOf issuerPoint) responseTbs ∧
      parsedResponder.notAfter * 1000000000 < halfPast.nanos := by
  have unsigned : ∀ entry ∈ signatures, entry.1 = keyOf issuerPoint → entry.2.2 ≠ responseTbs := by
    decide +kernel
  refine ⟨cratesCorrect_delegated, verifyAndMapResponse_delegated, by decide +kernel, ?_,
    by decide +kernel⟩
  rintro ⟨signature, member⟩
  generalize responseTbs = message at unsigned member
  exact unsigned _ member rfl rfl

/-- The theorem at that response: the answer there is about the certificate with either id. -/
theorem verifyAndMapResponse_good_delegated :
    letI := delegatedCrates
    verifyAndMapResponse responseDer issuer.der (certIdWith (some [5, 0])) [7] halfPast =
        .ok .good ∧
      Reports delegatedMeaning responseDer issuer.der (certIdWith (some [5, 0])) [7] halfPast
        .good := by
  let crates := delegatedCrates
  exact ⟨verifyAndMapResponse_delegated,
    verifyAndMapResponse_good cratesCorrect_delegated verifyAndMapResponse_delegated⟩

end Mcps.Proxy.Ocsp
