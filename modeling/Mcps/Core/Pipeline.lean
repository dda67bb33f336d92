import Mcps.Core.Envelope

/-!
# Request and response verification

The verify pipeline of both profiles and the version dispatch in front of it.  The
steps run in the normative order and stop at the first failure; the replay cache is
the last of them, so a request leaves its mark there only after its signature held.

Everything before the replay cache is a pure function of the bytes, the resolver, the
configuration and the clock (`requestEvidence`); `acceptFresh` is the one step with
state.
-/

namespace Mcps

/-! ## Signatures, hashes and trust -/

/-- An Ed25519 verification key, as its 32 bytes. -/
structure VerificationKey where
  inner : Bytes
  deriving DecidableEq

inductive TrustResolverError where
  | notFound
  | revoked
  | malformedKey
  | unavailable (details : String)
  deriving DecidableEq, Repr

def TrustResolverError.toMcpsError : TrustResolverError → McpsError
  | .notFound | .revoked | .malformedKey => .actorBindingFailed
  | .unavailable _ => .trustResolverUnavailable

/-- A trust resolver's answers for a signer and a key id. -/
abbrev TrustResolver := (signer keyId : String) → Except TrustResolverError VerificationKey

def ensureEd25519Alg (alg : String) (onError : McpsError) : Except McpsError Unit :=
  if alg = sigAlgEd25519 then .ok () else .error onError

theorem ensureEd25519Alg_eq_ok {alg : String} {onError : McpsError} :
    ensureEd25519Alg alg onError = .ok () ↔ alg = sigAlgEd25519 := by
  unfold ensureEd25519Alg
  split <;> simp_all

section

variable [Crates]

/-- Verify a base64url signature over a preimage; every failure is the given error. -/
def verifyEd25519With (preimage : Bytes) (signature : String) (key : VerificationKey)
    (onError : McpsError) : Except McpsError Unit :=
  match Crates.b64urlDecode signature with
  | some bytes =>
    if bytes.length ≠ 64 then .error onError
    else if Crates.verifyStrict key.inner preimage bytes then .ok ()
    else .error onError
  | none => .error onError

theorem verifyEd25519With_eq_ok {preimage : Bytes} {text : String} {key : VerificationKey}
    {onError : McpsError} :
    verifyEd25519With preimage text key onError = .ok () ↔ ∃ signature,
      Crates.b64urlDecode text = some signature ∧ signature.length = 64 ∧
        Crates.verifyStrict key.inner preimage signature = true := by
  unfold verifyEd25519With
  cases decoded : Crates.b64urlDecode text with
  | none => simp
  | some signature =>
    rw [Except.guard_eq_ok]
    split
    next holds => simp [holds]
    next fails => simp [fails]

theorem verifyEd25519With_ok {preimage bytes : Bytes} {signature : String} {key : VerificationKey}
    (decoded : Crates.b64urlDecode signature = some bytes) (length : bytes.length = 64)
    (verifies : Crates.verifyStrict key.inner preimage bytes = true) (onError : McpsError) :
    verifyEd25519With preimage signature key onError = .ok () :=
  verifyEd25519With_eq_ok.mpr ⟨bytes, decoded, length, verifies⟩

def verifyEd25519 (preimage : Bytes) (signature : String) (key : VerificationKey) :
    Except McpsError Unit :=
  verifyEd25519With preimage signature key .invalidSignature

def sha256HashId (bytes : Bytes) : String :=
  "sha256:" ++ Crates.b64urlEncode (Crates.sha256 bytes)

/-- The hash that binds a response to its request. -/
def requestHash (requestObject : Value) : Except McpsError String := do
  return sha256HashId (← requestSigningPreimage requestObject)

end

/-! ## Replay caches -/

inductive ReplayDecision where
  | fresh
  | replay
  deriving DecidableEq, Repr

inductive ReplayCacheError where
  | unavailable (details : String)
  deriving DecidableEq, Repr

def ReplayCacheError.toMcpsError : ReplayCacheError → McpsError
  | .unavailable _ => .replayCacheUnavailable

/-- A replay cache with state `σ`. -/
class ReplayCache (σ : Type) where
  checkAndInsert : (signer audience nonce : String) → (expiresAtUnix : Int) → σ →
    Except ReplayCacheError ReplayDecision × σ

/-- The in-memory reference cache: each accepted triple with the time it is kept until. -/
structure InMemoryReplayCache where
  maxClockSkewSecs : Int
  seen : List ((String × String × String) × Int)

namespace InMemoryReplayCache

def new (maxClockSkewSecs : Int) : InMemoryReplayCache := ⟨maxClockSkewSecs, []⟩

/-- Drop the entries whose retention ended before `now`. -/
def prune (now : Int) (cache : InMemoryReplayCache) : InMemoryReplayCache :=
  { cache with seen := cache.seen.filter fun entry => entry.2 ≥ now }

def checkAndInsert (signer audience nonce : String) (expiresAtUnix : Int)
    (cache : InMemoryReplayCache) :
    Except ReplayCacheError ReplayDecision × InMemoryReplayCache :=
  let key := (signer, audience, nonce)
  if (Assoc.find? key cache.seen).isSome then (.ok .replay, cache)
  else
    let retainUntil := saturatingAdd expiresAtUnix cache.maxClockSkewSecs
    (.ok .fresh, { cache with seen := (key, retainUntil) :: cache.seen })

instance : ReplayCache InMemoryReplayCache := ⟨checkAndInsert⟩

end InMemoryReplayCache

/-! ## Requests -/

structure VerificationConfig where
  expectedAudience : String
  maxClockSkewSecs : Int

/-- The authorization evidence of a verified request, by profile. -/
inductive VerifiedAuthorization where
  | draft01Hash (authorizationHash : String)
  | draft02Binding (authorizationBinding : AuthorizationBinding)
  deriving DecidableEq, Repr

/-- What a request envelope states about itself. -/
structure RequestClaims where
  verifiedSigner : String
  keyId : String
  onBehalfOf : String
  audience : String
  authorization : VerifiedAuthorization
  nonce : String
  issuedAt : String
  expiresAt : String
  canonicalizationId : Option String
  deriving DecidableEq, Repr

/-- A request that passed every step of the pipeline. -/
structure VerifiedRequest extends RequestClaims where
  requestHash : String
  deriving DecidableEq, Repr

def RequestEnvelope.claims (envelope : RequestEnvelope) : RequestClaims where
  verifiedSigner := envelope.signer
  keyId := envelope.signature.keyId
  onBehalfOf := envelope.onBehalfOf
  audience := envelope.audience
  authorization := .draft01Hash envelope.authorizationHash
  nonce := envelope.nonce
  issuedAt := envelope.issuedAt
  expiresAt := envelope.expiresAt
  canonicalizationId := none

def Draft02RequestEnvelope.claims (envelope : Draft02RequestEnvelope) : RequestClaims where
  verifiedSigner := envelope.signer
  keyId := envelope.signature.keyId
  onBehalfOf := envelope.onBehalfOf
  audience := envelope.audience
  authorization := .draft02Binding envelope.authorizationBinding
  nonce := envelope.nonce
  issuedAt := envelope.issuedAt
  expiresAt := envelope.expiresAt
  canonicalizationId := some envelope.canonicalizationId

def checkAuthorizationHash (authorizationHash : String) : Except McpsError Unit :=
  if authorizationHash.isEmpty || !(textBytes "sha256:").isPrefixOf (textBytes authorizationHash) then
    .error .authorizationHashMissing
  else .ok ()

def checkOnBehalfOf (onBehalfOf : String) : Except McpsError Unit :=
  if onBehalfOf.isEmpty then .error .onBehalfOfInvalidFormat else .ok ()

def checkSignatureBlock (alg : String) (value : Option String) : Except McpsError Unit := do
  ensureEd25519Alg alg .invalidSignature
  if value.isNone then throw .invalidSignature

section

variable [Crates]

/-- The steps from the principal format to the signature, which both profiles share; the
result is the parsed expiry the replay cache is given. -/
def checkClaims (value : Value) (claims : RequestClaims) (signature : SignatureBlock)
    (resolver : TrustResolver) (config : VerificationConfig) (now : Int) :
    Except McpsError Int := do
  checkOnBehalfOf claims.onBehalfOf
  checkSignatureBlock signature.alg signature.value
  if claims.audience ≠ config.expectedAudience then throw .invalidAudience
  checkFreshness claims.issuedAt claims.expiresAt now config.maxClockSkewSecs
  let key ← (resolver claims.verifiedSigner claims.keyId).mapError TrustResolverError.toMcpsError
  let preimage ← requestSigningPreimage value
  let signatureValue ← signature.value.okOr .invalidSignature
  verifyEd25519 preimage signatureValue key
  parseRfc3339Utc claims.expiresAt

/-- What the steps before the replay cache establish. -/
structure RequestEvidence where
  value : Value
  claims : RequestClaims
  expiresAtUnix : Int

/-- The structural steps on the raw bytes that every verifier starts with. -/
def parseMessage (rawBytes : Bytes) : Except McpsError Value := do
  let value ← (Crates.fromSlice rawBytes).okOr .canonicalizationFailed
  rejectBatch value.val
  rejectNotification value.val
  return value.val

/-- The steps of the draft-01 request pipeline before the replay cache. -/
def requestEvidence (rawBytes : Bytes) (resolver : TrustResolver)
    (config : VerificationConfig) (now : Int) : Except McpsError RequestEvidence := do
  let value ← parseMessage rawBytes
  let _ ← canonicalize rawBytes
  let envelope ← extractRequestEnvelope value
  checkAuthorizationHash envelope.authorizationHash
  let expires ← checkClaims value envelope.claims envelope.signature resolver config now
  return ⟨value, envelope.claims, expires⟩

/-- The steps of the draft-02 request pipeline before the replay cache. -/
def requestEvidenceDraft02 (rawBytes : Bytes) (resolver : TrustResolver)
    (config : VerificationConfig) (now : Int) : Except McpsError RequestEvidence := do
  let value ← parseMessage rawBytes
  let _ ← canonicalize rawBytes
  let envelope ← extractDraft02RequestEnvelope value
  let expires ← checkClaims value envelope.claims envelope.signature resolver config now
  return ⟨value, envelope.claims, expires⟩

variable {σ : Type} [ReplayCache σ]

/-- The replay step and the verified request it ends in. -/
def acceptFresh (evidence : RequestEvidence) (replay : σ) :
    Except McpsError VerifiedRequest × σ :=
  let claims := evidence.claims
  match ReplayCache.checkAndInsert claims.verifiedSigner claims.audience claims.nonce
      evidence.expiresAtUnix replay with
  | (.ok .fresh, replay) => (do return ⟨claims, ← requestHash evidence.value⟩, replay)
  | (.ok .replay, replay) => (.error .replayDetected, replay)
  | (.error e, replay) => (.error e.toMcpsError, replay)

/-- Consult the replay cache only with evidence. -/
def acceptEvidence (evidence : Except McpsError RequestEvidence) (replay : σ) :
    Except McpsError VerifiedRequest × σ :=
  match evidence with
  | .ok evidence => acceptFresh evidence replay
  | .error e => (.error e, replay)

def verifyRequest (rawBytes : Bytes) (resolver : TrustResolver) (replay : σ)
    (config : VerificationConfig) (now : Int) : Except McpsError VerifiedRequest × σ :=
  acceptEvidence (requestEvidence rawBytes resolver config now) replay

def verifyRequestDraft02 (rawBytes : Bytes) (resolver : TrustResolver) (replay : σ)
    (config : VerificationConfig) (now : Int) : Except McpsError VerifiedRequest × σ :=
  acceptEvidence (requestEvidenceDraft02 rawBytes resolver config now) replay

end

/-! ## Version dispatch -/

/-- Which profile versions a verifier admits. -/
inductive ExpectedVersionPolicy where
  | draft02Only
  | draft01AndDraft02
  deriving DecidableEq, Repr

def ExpectedVersionPolicy.admits (policy : ExpectedVersionPolicy) (version : String) : Bool :=
  match policy with
  | .draft02Only => version = versionDraft02
  | .draft01AndDraft02 => version = versionDraft01 || version = versionDraft02

/-- The untrusted version selector of a request. -/
def readRequestEnvelopeVersion (value : Value) : Except McpsError String := do
  let envelope ← locateEnvelope value "params" requestMetaKey
  ((envelope.get "version").bind Json.asStr).okOr .unsupportedVersion

/-- The profile a request selects, if the policy admits it. -/
def selectVersion (value : Value) (policy : ExpectedVersionPolicy) : Except McpsError String := do
  let version ← readRequestEnvelopeVersion value
  if version ≠ versionDraft01 && version ≠ versionDraft02 then throw .unsupportedVersion
  if !policy.admits version then throw .downgradeForbidden
  return version

section

variable [Crates] {σ : Type} [ReplayCache σ]

/-- Verify a request under the one profile it selects; no fallback. -/
def verifyRequestDispatch (rawBytes : Bytes) (resolver : TrustResolver) (replay : σ)
    (config : VerificationConfig) (now : Int) (policy : ExpectedVersionPolicy) :
    Except McpsError VerifiedRequest × σ :=
  match (do selectVersion (← parseMessage rawBytes) policy) with
  | .error e => (.error e, replay)
  | .ok version =>
    if version = versionDraft01 then verifyRequest rawBytes resolver replay config now
    else verifyRequestDraft02 rawBytes resolver replay config now

/-! ## Responses -/

structure VerifiedResponse where
  serverSigner : String
  keyId : String
  requestHash : String
  deriving DecidableEq, Repr

/-- The signature steps both response profiles share. -/
def checkResponseSignature (value : Value) (serverSigner : String) (signature : SignatureBlock)
    (resolver : TrustResolver) : Except McpsError Unit := do
  ensureEd25519Alg signature.alg .responseSigInvalid
  let key ← (resolver serverSigner signature.keyId).mapError TrustResolverError.toMcpsError
  let preimage ← responseSigningPreimage value
  let signatureValue ← signature.value.okOr .responseSigInvalid
  verifyEd25519With preimage signatureValue key .responseSigInvalid

def verifyResponse (rawBytes : Bytes) (resolver : TrustResolver)
    (expectedRequestHash : String) : Except McpsError VerifiedResponse := do
  let value ← parseMessage rawBytes
  let _ ← canonicalize rawBytes
  let envelope ← extractResponseEnvelope value
  checkResponseSignature value envelope.serverSigner envelope.signature resolver
  if envelope.requestHash ≠ expectedRequestHash then throw .responseHashMismatch
  return ⟨envelope.serverSigner, envelope.signature.keyId, envelope.requestHash⟩

def verifyResponseDraft02 (rawBytes : Bytes) (resolver : TrustResolver)
    (expectedRequestHash expectedCanonicalizationId : String) :
    Except McpsError VerifiedResponse := do
  let value ← parseMessage rawBytes
  let _ ← canonicalize rawBytes
  let envelope ← extractDraft02ResponseEnvelope value
  checkResponseSignature value envelope.serverSigner envelope.signature resolver
  if envelope.canonicalizationId ≠ expectedCanonicalizationId then
    throw .canonicalizationIdMismatch
  if envelope.requestHash ≠ expectedRequestHash then throw .responseHashMismatch
  return ⟨envelope.serverSigner, envelope.signature.keyId, envelope.requestHash⟩

end

end Mcps
