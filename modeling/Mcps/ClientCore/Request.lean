import Mcps.Core.Pipeline

/-!
# Signed request construction

The client side of a draft-02 request.  The audience comes from the route's configured
tuple, the authorization binding from the application's provider, the signature from a
signer that a custody policy has authorized; the builder authors the request envelope
inside `params._meta`, signs the canonical preimage and grafts the signature in.
-/

namespace Mcps.ClientCore

open Except

/-! ## Audiences -/

/-- Replace every occurrence of a character. -/
def replaceChar (needle : Char) (replacement text : String) : String :=
  String.ofList ((textChars text).flatMap fun c =>
    if c = needle then textChars replacement else [c])

/-- Escape the delimiters of an audience string. -/
def escapeField (value : String) : String :=
  replaceChar '=' "%3D" (replaceChar ';' "%3B" (replaceChar '%' "%25" value))

/-- A concrete audience; the tenant and the route are never empty. -/
structure AudienceTuple where
  scheme : String
  host : String
  port : UInt16
  tenantId : String
  routeId : String
  realm : String
  discriminated : tenantId.isEmpty = false ∧ routeId.isEmpty = false

namespace AudienceTuple

def new (scheme host : String) (port : UInt16) (tenantId routeId realm : String) :
    Except McpsError AudienceTuple :=
  if empty : tenantId.isEmpty || routeId.isEmpty then .error .invalidAudience
  else .ok ⟨scheme, host, port, tenantId, routeId, realm, by simpa using empty⟩

/-- The audience of the request envelope. -/
def toAudienceString (tuple : AudienceTuple) : String :=
  "mcps-audience:v1:scheme=" ++ escapeField tuple.scheme ++ ";host=" ++ escapeField tuple.host ++
    ";port=" ++ tuple.port.toNat.repr ++ ";tenant=" ++ escapeField tuple.tenantId ++
    ";route=" ++ escapeField tuple.routeId ++ ";realm=" ++ escapeField tuple.realm

end AudienceTuple

/-- The server signer and the audience a route is bound to. -/
structure SignerAudienceBinding where
  expectedServerSigner : String
  audience : AudienceTuple

def SignerAudienceBinding.audienceString (binding : SignerAudienceBinding) : String :=
  binding.audience.toAudienceString

/-! ## Authorization bindings -/

inductive BindingTypeTag where
  | opaqueBytes
  | authzSystemReference
  deriving DecidableEq, Repr

def bindingTag : AuthorizationBinding → BindingTypeTag
  | .opaqueBytes _ _ => .opaqueBytes
  | .authzSystemReference _ _ _ _ _ => .authzSystemReference

/-- The digest of a binding, whichever form it has. -/
def bindingDigest : AuthorizationBinding → String
  | .opaqueBytes _ digestValue => digestValue
  | .authzSystemReference _ _ _ _ digestValue => digestValue

/-- The binding forms a route permits. -/
structure AuthorizationBindingPolicy where
  allowedTypes : List BindingTypeTag
  deriving DecidableEq, Repr

def AuthorizationBindingPolicy.bothBaseForms : AuthorizationBindingPolicy :=
  ⟨[.opaqueBytes, .authzSystemReference]⟩

def AuthorizationBindingPolicy.permits (policy : AuthorizationBindingPolicy)
    (tag : BindingTypeTag) : Bool :=
  policy.allowedTypes.contains tag

/-- What a provider is told about the request. -/
structure BindingRequestContext where
  audience : String
  routeId : String
  method : Option String
  toolId : Option String
  deadlineUnix : Int
  deriving DecidableEq, Repr

/-- The application's source of authorization bindings. -/
abbrev AuthorizationBindingProvider :=
  BindingRequestContext → Except McpsError AuthorizationBinding

def resolveAuthorizationBinding (provider : AuthorizationBindingProvider)
    (policy : AuthorizationBindingPolicy) (context : BindingRequestContext) :
    Except McpsError AuthorizationBinding := do
  let binding ← provider context
  if !policy.permits (bindingTag binding) then throw .authorizationBindingTypeUnsupported
  return binding

/-! ## Signers -/

inductive CustodyClass where
  | nonExporting
  | softwareHeldPrivate
  | devFileUnprotected
  deriving DecidableEq, Repr

def CustodyClass.acceptableForProduction (custody : CustodyClass) : Bool :=
  custody ≠ .devFileUnprotected

def CustodyClass.isNonExporting (custody : CustodyClass) : Bool := custody = .nonExporting

/-- A signing identity; signing may fail. -/
structure ClientSigner where
  signerId : String
  keyId : String
  custody : CustodyClass
  signPreimage : Bytes → Except McpsError String

inductive Environment where
  | production
  | devTest
  deriving DecidableEq, Repr

structure SignerPolicy where
  expectedSigner : String
  revokedKeyIds : List String
  environment : Environment
  requireMcps : Bool
  requireNonExporting : Bool
  deriving DecidableEq, Repr

/-- Every custody failure is reported alike. -/
def authorizeSigner (policy : SignerPolicy) (signer : ClientSigner) : Except McpsError Unit := do
  if signer.signerId ≠ policy.expectedSigner then throw .actorBindingFailed
  if policy.revokedKeyIds.contains signer.keyId then throw .actorBindingFailed
  if policy.requireNonExporting && !signer.custody.isNonExporting then throw .actorBindingFailed
  if policy.requireMcps && policy.environment = .production
      && !signer.custody.acceptableForProduction then
    throw .actorBindingFailed

/-! ## Requests -/

structure RequestSigningInputs where
  signer : String
  keyId : String
  onBehalfOf : String
  audience : String
  authorizationBinding : AuthorizationBinding
  nonce : String
  issuedAt : String
  expiresAt : String
  canonicalizationId : String
  deriving DecidableEq, Repr

structure SignedRequest where
  wireBytes : Bytes
  requestHash : String
  object : Value
  deriving DecidableEq

def checkCanonicalizationId (id : String) : Except McpsError Unit :=
  if id.isEmpty then .error .canonicalizationIdMissing
  else if draft02CanonicalizationAllowlist.contains id then .ok ()
  else .error .canonicalizationIdNotAllowed

/-- The request envelope without its signature value. -/
def unsignedEnvelope (inputs : RequestSigningInputs) : Value :=
  .object [
    ("audience", .string inputs.audience),
    ("authorization_binding", bindingValue inputs.authorizationBinding),
    ("canonicalization_id", .string inputs.canonicalizationId),
    ("expires_at", .string inputs.expiresAt),
    ("issued_at", .string inputs.issuedAt),
    ("nonce", .string inputs.nonce),
    ("on_behalf_of", .string inputs.onBehalfOf),
    ("signature", .object [("alg", .string sigAlgEd25519), ("key_id", .string inputs.keyId)]),
    ("signer", .string inputs.signer),
    ("version", .string versionDraft02)]

/-- The parameters with the envelope in their `_meta`; a `_meta` that is not an object is
dropped. -/
def paramsWithEnvelope (params : List (String × Value)) (envelope : Value) :
    List (String × Value) :=
  let metaMembers := ((Assoc.find? "_meta" params).bind Json.asObject).getD []
  Assoc.insert codePointLt "_meta"
    (.object (Assoc.insert codePointLt requestMetaKey envelope metaMembers))
    (Assoc.erase "_meta" params)

/-- The request before it is signed. -/
def unsignedRequest (id : Value) (method : String) (params : List (String × Value))
    (inputs : RequestSigningInputs) : Value :=
  .object [("id", id), ("jsonrpc", .string "2.0"), ("method", .string method),
    ("params", .object (paramsWithEnvelope params (unsignedEnvelope inputs)))]

/-- Graft the signature into the block the builder has just written. -/
def graftSignature (request : Value) (signature : String) : Value :=
  request.modifyAt EnvelopeLocation.request.signaturePath
    (Json.insertMember "value" (.string signature))

section

variable [Crates]

/-- The digest an opaque-bytes binding commits to. -/
def opaqueDigestValue (artifactBytes : Bytes) : String :=
  Crates.b64urlEncode (Crates.sha256 artifactBytes)

/-- A provider that binds the exact bytes of an artifact. -/
def opaqueBytesProvider (artifactBytes : Bytes) : AuthorizationBindingProvider := fun _ =>
  .ok (.opaqueBytes digestAlgSha256 (opaqueDigestValue artifactBytes))

/-- Build a request and sign it with whatever signs its preimage. -/
def buildSignedRequestWith (id : Value) (method : String) (params : List (String × Value))
    (inputs : RequestSigningInputs) (sign : Bytes → Except McpsError String) :
    Except McpsError SignedRequest := do
  checkCanonicalizationId inputs.canonicalizationId
  let request := unsignedRequest id method params inputs
  let preimage ← requestSigningPreimage request
  let signature ← sign preimage
  let request := graftSignature request signature
  let requestHash ← requestHash request
  let wireBytes ← (Crates.toVec request).okOr .canonicalizationFailed
  return ⟨wireBytes, requestHash, request⟩

/-- Build a request and sign it with a key held in process, which always signs. -/
def buildSignedRequest (id : Value) (method : String) (params : List (String × Value))
    (inputs : RequestSigningInputs) (sign : Bytes → String) : Except McpsError SignedRequest :=
  buildSignedRequestWith id method params inputs fun preimage => .ok (sign preimage)

/-- Authorize the signer, then build the request under the signer's own identity. -/
def buildSignedRequestWithSigner (id : Value) (method : String)
    (params : List (String × Value)) (inputs : RequestSigningInputs) (signer : ClientSigner)
    (policy : SignerPolicy) : Except McpsError SignedRequest := do
  authorizeSigner policy signer
  let bound := { inputs with signer := signer.signerId, keyId := signer.keyId }
  buildSignedRequestWith id method params bound signer.signPreimage

/-- What a built request consists of. -/
theorem buildSignedRequestWith_eq_ok {id : Value} {method : String}
    {params : List (String × Value)} {inputs : RequestSigningInputs}
    {sign : Bytes → Except McpsError String} {request : SignedRequest}
    (built : buildSignedRequestWith id method params inputs sign = .ok request) :
    checkCanonicalizationId inputs.canonicalizationId = .ok () ∧
      ∃ preimage signature,
        requestSigningPreimage (unsignedRequest id method params inputs) = .ok preimage ∧
        sign preimage = .ok signature ∧
        request.object = graftSignature (unsignedRequest id method params inputs) signature ∧
        requestHash request.object = .ok request.requestHash ∧
        Crates.toVec request.object = some request.wireBytes := by
  simp only [buildSignedRequestWith, bind_eq_ok] at built
  obtain ⟨_, allowed, preimage, preimaged, signature, signed, _, hashed, _, written, built⟩ := built
  cases built
  exact ⟨allowed, preimage, signature, preimaged, signed, rfl, hashed,
    Option.okOr_eq_ok.mp written⟩

end

end Mcps.ClientCore
