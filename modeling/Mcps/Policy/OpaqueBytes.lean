import Mcps.ClientCore.Request
import Mcps.Core.Reference
import Mcps.Policy.Authorization

/-!
# Opaque bytes on both sides

The client's `opaqueBytesProvider` binds a request to the bytes of an artifact as they are.
The reference profile reproduces the digest from the canonical form of the artifact, so the
two mean the same bytes only where canonicalization keeps the digest.
-/

namespace Mcps.Policy

open Except

section

variable [Crates] {verified : VerifiedRequest} {request : Value} {resolver : TrustResolver}
  {revocation : RevocationSource} {now : Int}

/-! ## Who reports a mismatch -/

theorem verifyIssuerSignature_ne_hashMismatch {artifact : Value} {grant : ReferenceGrant}
    {resolver : TrustResolver} :
    verifyIssuerSignature artifact grant resolver ≠ .error .authorizationHashMismatch := by
  apply guard_ne_error (by decide)
  apply bind_ne_error (Option.okOr_ne_error (by decide))
  intro _ _
  apply bind_ne_error (mapError_const_ne_error (by decide))
  intro preimage _
  apply bind_ne_error (mapError_const_ne_error (by decide))
  intro key _
  exact mapError_const_ne_error (by decide)

omit [Crates] in
theorem checkWindow_ne_hashMismatch {grant : ReferenceGrant} {now : Int} :
    checkWindow grant now ≠ .error .authorizationHashMismatch := by
  apply bind_ne_error (mapError_const_ne_error (by decide))
  intro notBefore _
  apply bind_ne_error (mapError_const_ne_error (by decide))
  intro expiresAt _
  exact guard_ne_error (by decide) nofun

omit [Crates] in
theorem checkRevocation_ne_hashMismatch {revocation : RevocationSource} {revocationId : String} :
    checkRevocation revocation revocationId ≠ .error .authorizationHashMismatch := by
  unfold checkRevocation
  split <;> nofun

omit [Crates] in
theorem checkScope_ne_hashMismatch {grant : ReferenceGrant} {request : Value} :
    checkScope grant request ≠ .error .authorizationHashMismatch := by
  apply bind_ne_error (Option.okOr_ne_error (by decide))
  intro tool _
  split <;> nofun

theorem ReferenceProfile.authorize_ne_hashMismatch {artifactBytes : Bytes} :
    authorize artifactBytes verified request resolver revocation now ≠
      .deny .authorizationHashMismatch := by
  have passes : evaluateInner artifactBytes verified request resolver revocation now ≠
      .error .authorizationHashMismatch := by
    apply bind_ne_error (mapError_const_ne_error (by decide))
    intro canonical _
    apply bind_ne_error (Option.okOr_ne_error (by decide))
    intro artifact _
    apply bind_ne_error (Option.okOr_ne_error (by decide))
    intro grant _
    apply bind_ne_error verifyIssuerSignature_ne_hashMismatch
    intro _ _
    apply guard_ne_error (by decide)
    apply guard_ne_error (by decide)
    apply guard_ne_error (by decide)
    apply bind_ne_error checkWindow_ne_hashMismatch
    intro _ _
    apply bind_ne_error checkRevocation_ne_hashMismatch
    intro _ _
    apply guard_ne_error (by decide)
    exact checkScope_ne_hashMismatch
  unfold authorize
  split
  next => nofun
  next error failed =>
    intro same
    rw [AuthorizationDecision.deny.inj same] at failed
    exact passes failed

/-! ## The two digests -/

/-- A request with nothing but an authorization block for the reference profile. -/
def blockRequest (text : String) : Value :=
  .object [("params", .object [("_meta", .object [(authorizationMetaKey, .object
    [("artifact", .string text), ("profile", .string referenceProfileId)])])])]

theorem carries_blockRequest {text : String} {artifactBytes : Bytes}
    (decoded : Crates.b64urlDecode text = some artifactBytes) :
    Carries (blockRequest text) referenceProfileId artifactBytes :=
  ⟨_, text, rfl, rfl, rfl, decoded⟩

/-- A verified request under an opaque-bytes binding. -/
def opaqueRequest (digestValue : String) : VerifiedRequest where
  verifiedSigner := "did:example:agent-1"
  keyId := "key-1"
  onBehalfOf := "did:example:user-1"
  audience := "did:example:server-1"
  authorization := .draft02Binding (.opaqueBytes digestAlgSha256 digestValue)
  nonce := "nonce-1"
  issuedAt := "2026-05-28T20:29:00Z"
  expiresAt := "2026-05-28T20:34:00Z"
  canonicalizationId := some canonicalizationIdInt53V1
  requestHash := "sha256:RBNvo1WzZ4oRRq0W9-hknpT7T8If536DEMBg9hyq_4o"

/-- Both sides of an opaque-bytes binding mean the artifact's own bytes exactly when its
canonical form has the digest of those bytes.  On the one side the evaluator never answers
a binding that `opaqueBytesProvider` made over the artifact with a hash mismatch; on the
other it never allows a request whose bound digest is not the one of the decoded artifact. -/
theorem evaluate_opaqueBytes_iff
    (decodes : ∀ bytes, Crates.b64urlDecode (Crates.b64urlEncode bytes) = some bytes)
    {artifactBytes canonical : Bytes} (canonicalized : canonicalize artifactBytes = .ok canonical) :
    (∀ (verified : VerifiedRequest) (request : Value) (resolver : TrustResolver)
        (revocation : RevocationSource) (now : Int) (digestAlg digestValue : String),
      verified.authorization = .draft02Binding (.opaqueBytes digestAlg digestValue) →
      Carries request referenceProfileId artifactBytes →
      (∀ context, ClientCore.opaqueBytesProvider artifactBytes context =
          .ok (.opaqueBytes digestAlg digestValue) →
        referenceEvaluator.evaluate verified request resolver revocation now ≠
          .deny .authorizationHashMismatch) ∧
      (referenceEvaluator.evaluate verified request resolver revocation now = .allow →
        digestValue = Crates.b64urlEncode (Crates.sha256 artifactBytes))) ↔
      Crates.sha256 canonical = Crates.sha256 artifactBytes := by
  constructor
  · intro meansSame
    by_contra different
    let digestValue := Crates.b64urlEncode (Crates.sha256 artifactBytes)
    have carries := carries_blockRequest (decodes artifactBytes)
    have accepted := (meansSame (opaqueRequest digestValue) _ (fun _ _ => .error .notFound)
      (inMemoryRevocationSource []) 0 _ _ rfl carries).1 ⟨"", "", none, none, 0⟩ rfl
    rcases @evaluate_of_carries _ _ (opaqueRequest digestValue) _ (fun _ _ => .error .notFound)
      (inMemoryRevocationSource []) 0 _ _ _ _ registered_referenceEvaluator rfl carries
      canonicalized with ⟨bound, _⟩ | ⟨_, denied⟩
    · have encoded : Crates.b64urlEncode (Crates.sha256 artifactBytes) =
          Crates.b64urlEncode (Crates.sha256 canonical) := bound
      have decoded := decodes (Crates.sha256 artifactBytes)
      rw [encoded, decodes] at decoded
      exact different (Option.some.inj decoded)
    · exact accepted denied
  · intro sameDigest verified request resolver revocation now digestAlg digestValue held carries
    have selected : bindingCheck verified.authorization =
        some (PolicyEvaluator.checkOpaqueDigest digestValue) := by
      rw [held]
      rfl
    have decided := @evaluate_of_carries _ _ verified request resolver revocation now _ _ _ _
      registered_referenceEvaluator selected carries canonicalized
    rw [held, BoundTo, sameDigest] at decided
    constructor
    · intro context provided
      cases provided
      rcases decided with ⟨_, same⟩ | ⟨unbound, _⟩
      · rw [same]
        exact ReferenceProfile.authorize_ne_hashMismatch
      · exact absurd rfl unbound
    · intro allowed
      rcases decided with ⟨bound, _⟩ | ⟨_, denied⟩
      · exact bound
      · rw [denied] at allowed
        cases allowed

end

/-- A grant to call one tool, under a profile, with a constraint and with or without its
signature value. -/
def grantUnder (profile : String) (constraint signature : List (String × Value)) : Value :=
  .object [
    ("audience", .string "did:example:server-1"),
    ("expires_at", .string "2026-05-28T21:00:00Z"),
    ("grantee", .string "did:example:agent-1"),
    ("grants", .array [.object
      (constraint ++ [("method", .string "tools/call"), ("tool", .string "echo")])]),
    ("issuer", .string "did:example:authority-1"),
    ("not_before", .string "2026-05-28T20:00:00Z"),
    ("profile", .string profile),
    ("revocation_id", .string "rev-1"),
    ("signature", .object
      ([("alg", .string "Ed25519"), ("key_id", .string "authority-key-1")] ++ signature)),
    ("subject", .string "did:example:user-1")]

def echoGrant (signature : List (String × Value)) : Value :=
  grantUnder referenceProfileId [] signature

def issuerKey : String := "GX9rI-FshTLGq8g4-s1ep4m-DHaykgM0A5v6iz02jWE"

def issuerSignature : String :=
  "yG_wozk1VvbtWExkKYD22NKXIlwt1UuonCwiVOEXwNS4-VI5fQIBDTUkvX9tM-lv6xAx7HP_KP92NXHnTSZQBg"

/-- The canonical bytes of the signed grant. -/
def grantBytes : Bytes := bytesOf (echoGrant [("value", .string issuerSignature)])

/-- The same grant with a blank in front. -/
def spacedGrantBytes : Bytes := 32 :: grantBytes

/-- Crates that know the issuer's signature and the digests of the two spellings. -/
@[reducible] def grantCrates : Crates :=
  { referenceCrates "" [⟨issuerKey, bytesOf (echoGrant []), issuerSignature⟩] [] with
    sha256 := fun bytes => (b64urlDecodeText
      (if bytes = grantBytes then "jJmgYb_ugGtN0dyaqbsrVLyCLnDV9HkfjqUF9-ZQxew"
      else "geMZStOy2uCOzFeDU92mj8ke019azpYs0I3uBmS3F3k")).getD [] }

def issuerResolver : TrustResolver := fun signer keyId =>
  if signer = "did:example:authority-1" && keyId = "authority-key-1" then
    (b64urlDecodeText issuerKey).elim (.error .malformedKey) fun key => .ok ⟨key⟩
  else .error .notFound

/-- A call of the granted tool that carries an artifact. -/
def echoCall (artifactBytes : Bytes) : Value :=
  .object [("id", .string "req-1"), ("jsonrpc", .string "2.0"), ("method", .string "tools/call"),
    ("params", .object [
      ("_meta", .object [(authorizationMetaKey, .object [
        ("artifact", .string (b64urlEncodeBytes artifactBytes)),
        ("profile", .string referenceProfileId)])]),
      ("arguments", .object [("text", .string "hello")]),
      ("name", .string "echo")])]

/-- A canonical artifact: the binding made over it is not answered with a mismatch. -/
theorem evaluate_opaqueBytes_canonical :
    letI := grantCrates
    canonicalize grantBytes = .ok grantBytes ∧
      referenceEvaluator.evaluate (opaqueRequest (ClientCore.opaqueDigestValue grantBytes))
        (echoCall grantBytes) issuerResolver (inMemoryRevocationSource []) 1780000200 ≠
        .deny .authorizationHashMismatch := by
  let crates := grantCrates
  have canonicalized : canonicalize grantBytes = .ok grantBytes := by decide +kernel
  refine ⟨canonicalized, ?_⟩
  have meansSame := (evaluate_opaqueBytes_iff b64urlDecodeText_b64urlEncodeBytes canonicalized).mpr
    rfl (opaqueRequest (ClientCore.opaqueDigestValue grantBytes)) (echoCall grantBytes)
    issuerResolver (inMemoryRevocationSource []) 1780000200 _ _ rfl
    ⟨_, _, rfl, rfl, rfl, b64urlDecodeText_b64urlEncodeBytes grantBytes⟩
  exact meansSame.1 ⟨"", "", none, none, 0⟩ rfl

/-- The same grant with a blank in front of it.  The binding the client makes over these bytes
is refused as a mismatch; bound to another digest than theirs, the request is allowed. -/
theorem evaluate_refuses_spacedGrant :
    letI := grantCrates
    canonicalize spacedGrantBytes = .ok grantBytes ∧
      referenceEvaluator.evaluate (opaqueRequest (ClientCore.opaqueDigestValue spacedGrantBytes))
        (echoCall spacedGrantBytes) issuerResolver (inMemoryRevocationSource []) 1780000200 =
        .deny .authorizationHashMismatch ∧
      referenceEvaluator.evaluate (opaqueRequest (ClientCore.opaqueDigestValue grantBytes))
        (echoCall spacedGrantBytes) issuerResolver (inMemoryRevocationSource []) 1780000200 =
        .allow ∧
      ClientCore.opaqueDigestValue grantBytes ≠
        Crates.b64urlEncode (Crates.sha256 spacedGrantBytes) := by
  let crates := grantCrates
  have canonicalized : canonicalize spacedGrantBytes = .ok grantBytes := by decide +kernel
  have differs : ClientCore.opaqueDigestValue grantBytes ≠
      Crates.b64urlEncode (Crates.sha256 spacedGrantBytes) := by
    decide +kernel
  have authorized : ReferenceProfile.authorize spacedGrantBytes
      (opaqueRequest (ClientCore.opaqueDigestValue grantBytes)) (echoCall spacedGrantBytes)
      issuerResolver (inMemoryRevocationSource []) 1780000200 = .allow := by
    decide +kernel
  have carries : Carries (echoCall spacedGrantBytes) referenceProfileId spacedGrantBytes :=
    ⟨_, _, rfl, rfl, rfl, b64urlDecodeText_b64urlEncodeBytes spacedGrantBytes⟩
  have decided := fun digest => @evaluate_of_carries _ _ (opaqueRequest digest) _ issuerResolver
    (inMemoryRevocationSource []) 1780000200 _ _ _ _ registered_referenceEvaluator rfl carries
    canonicalized
  refine ⟨canonicalized, ?_, ?_, differs⟩
  · rcases decided (ClientCore.opaqueDigestValue spacedGrantBytes) with ⟨bound, _⟩ | ⟨_, denied⟩
    · exact absurd bound.symm differs
    · exact denied
  · rcases decided (ClientCore.opaqueDigestValue grantBytes) with ⟨_, same⟩ | ⟨unbound, _⟩
    · exact same.trans authorized
    · exact absurd rfl unbound

end Mcps.Policy
