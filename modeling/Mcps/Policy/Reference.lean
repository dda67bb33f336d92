import Mcps.Policy.Evaluator

/-!
# The reference signed authorization profile

The artifact is one JSON object, canonical by the rule of the signed messages and signed by
an issuer over its canonical bytes without `signature.value`.  The profile binds it to the
verified request, its window, the revocation source and the operation the request asks
for.

The grants are read by derived deserialization.  Unknown members are ignored, and a derived
struct can also be read from an array by position; the signature check is what turns away
an artifact or a signature block that is not an object.
-/

namespace Mcps.Policy

def referenceProfileId : String := "se.syncom/mcps-authz-reference-v1"

/-! ## The artifact -/

/-- A granted operation, with constraints on its arguments if there are any. -/
structure Grant where
  method : String
  tool : String
  arguments : Option Value
  deriving DecidableEq

structure GrantSignature where
  alg : String
  keyId : String
  value : String
  deriving DecidableEq, Repr

/-- What the profile reads of an artifact. -/
structure ReferenceGrant where
  issuer : String
  grantee : String
  subject : String
  audience : String
  grants : List Grant
  notBefore : String
  expiresAt : String
  revocationId : String
  signature : GrantSignature
  deriving DecidableEq

/-- The fields of a derived struct that ignores unknown members: by name in an object, by
position in an array with no element too many. -/
def structFields (names : List String) : Value → Option (String → Option Value)
  | .object members => some fun name => Assoc.find? name members
  | .array items =>
    if items.length ≤ names.length then some fun name => items[names.idxOf name]? else none
  | _ => none

/-- An `Option<Value>` field: absent and null are both `None`. -/
def optionalValue : Option Value → Option Value
  | some .null | none => none
  | some value => some value

def readGrant (raw : Value) : Option Grant := do
  let field ← structFields ["method", "tool", "arguments"] raw
  return {
    method := ← (field "method").bind Json.asStr
    tool := ← (field "tool").bind Json.asStr
    arguments := optionalValue (field "arguments") }

/-- A `Vec<Grant>` field. -/
def readGrants : Value → Option (List Grant)
  | .array items => items.mapM readGrant
  | _ => none

def readGrantSignature (raw : Value) : Option GrantSignature := do
  let field ← structFields ["alg", "key_id", "value"] raw
  return {
    alg := ← (field "alg").bind Json.asStr
    keyId := ← (field "key_id").bind Json.asStr
    value := ← (field "value").bind Json.asStr }

def readReferenceGrant (raw : Value) : Option ReferenceGrant := do
  let field ← structFields ["issuer", "grantee", "subject", "audience", "grants", "not_before",
    "expires_at", "revocation_id", "signature"] raw
  return {
    issuer := ← (field "issuer").bind Json.asStr
    grantee := ← (field "grantee").bind Json.asStr
    subject := ← (field "subject").bind Json.asStr
    audience := ← (field "audience").bind Json.asStr
    grants := ← (field "grants").bind readGrants
    notBefore := ← (field "not_before").bind Json.asStr
    expiresAt := ← (field "expires_at").bind Json.asStr
    revocationId := ← (field "revocation_id").bind Json.asStr
    signature := ← (field "signature").bind readGrantSignature }

/-! ## Checks -/

/-- The window is closed at both ends; a timestamp that does not parse is a defect of the
artifact, not a verdict on its freshness. -/
def checkWindow (grant : ReferenceGrant) (now : Int) : Except PolicyError Unit := do
  let notBefore ← (parseRfc3339Utc grant.notBefore).mapError fun _ => .authorizationMalformed
  let expiresAt ← (parseRfc3339Utc grant.expiresAt).mapError fun _ => .authorizationMalformed
  if now < notBefore ∨ now > expiresAt then throw .authorizationExpired

/-- Only an affirmative answer lets the evaluation go on. -/
def checkRevocation (revocation : RevocationSource) (revocationId : String) :
    Except PolicyError Unit :=
  match revocation revocationId with
  | .ok .notRevoked => .ok ()
  | .ok .revoked => .error .authorizationRevoked
  | .error _ => .error .authorizationRevocationUnavailable

/-- The parameter that names the target of a method. -/
def targetKey (method : String) : Option String :=
  if method = "tools/call" ∨ method = "prompts/get" then some "name"
  else if method = "resources/read" then some "uri"
  else none

/-- Every constrained argument has the value the constraint gives; a constraint that is not
an object cannot be met. -/
def argumentsSatisfied (constraint actual : Option Value) : Bool :=
  match constraint with
  | none => true
  | some (.object constraint) =>
    match actual.bind Json.asObject with
    | some actual => constraint.all fun entry =>
      (Assoc.find? entry.1 actual).any fun value => SameValue value entry.2
    | none => constraint.isEmpty
  | some _ => false

def checkScope (grant : ReferenceGrant) (request : Value) : Except PolicyError Unit := do
  let method := ((request.get "method").bind Json.asStr).getD ""
  let params := request.get "params"
  let target := (targetKey method).bind fun key => (params.bind (Json.get key)).bind Json.asStr
  let arguments := params.bind (Json.get "arguments")
  let tool ← target.okOr .authorizationScopeDenied
  if grant.grants.any fun operation => operation.method = method && operation.tool = tool &&
      argumentsSatisfied operation.arguments arguments then
    return ()
  else throw .authorizationScopeDenied

section

variable [Crates]

/-- Verify the issuer's signature over the artifact without its signature value. -/
def verifyIssuerSignature (artifact : Value) (grant : ReferenceGrant)
    (resolver : TrustResolver) : Except PolicyError Unit := do
  if grant.signature.alg ≠ sigAlgEd25519 then throw .authorizationSignatureInvalid
  let _ ← ((artifact.get "signature").bind Json.asObject).okOr PolicyError.authorizationMalformed
  let preimage ← (canonicalizeJsonValue (artifact.erasePath ["signature", "value"])).mapError
    fun _ => .authorizationMalformed
  let key ← (resolver grant.issuer grant.signature.keyId).mapError
    fun _ => .authorizationSignatureInvalid
  (verifyEd25519With preimage grant.signature.value key .invalidSignature).mapError
    fun _ => .authorizationSignatureInvalid

namespace ReferenceProfile

def expectedAuthorizationHash (artifactBytes : Bytes) : Except PolicyError String := do
  let canonical ← (canonicalize artifactBytes).mapError fun _ => .authorizationMalformed
  return sha256HashId canonical

/-- Every check of the profile; the result is the reason of the denial. -/
def evaluateInner (artifactBytes : Bytes) (verified : VerifiedRequest) (request : Value)
    (resolver : TrustResolver) (revocation : RevocationSource) (now : Int) :
    Except PolicyError Unit := do
  let canonicalArtifact ← (canonicalize artifactBytes).mapError fun _ => .authorizationMalformed
  let artifact ← (Crates.fromSlice canonicalArtifact).okOr .authorizationMalformed
  let grant ← (readReferenceGrant artifact.val).okOr .authorizationMalformed
  verifyIssuerSignature artifact.val grant resolver
  if grant.grantee ≠ verified.verifiedSigner then throw .authorizationSignerMismatch
  if grant.subject ≠ verified.onBehalfOf then throw .authorizationSubjectMismatch
  if grant.audience ≠ verified.audience then throw .authorizationAudienceMismatch
  checkWindow grant now
  checkRevocation revocation grant.revocationId
  if grant.grants.any fun operation => operation.tool.isEmpty then throw .authorizationMalformed
  checkScope grant request

def authorize (artifactBytes : Bytes) (verified : VerifiedRequest) (request : Value)
    (resolver : TrustResolver) (revocation : RevocationSource) (now : Int) :
    AuthorizationDecision :=
  match evaluateInner artifactBytes verified request resolver revocation now with
  | .ok () => .allow
  | .error error => .deny error

end ReferenceProfile

/-- The profile as the evaluator registers it. -/
def referenceProfile : AuthorizationProfile where
  profileId := referenceProfileId
  expectedAuthorizationHash := ReferenceProfile.expectedAuthorizationHash
  authorize := ReferenceProfile.authorize

/-- The evaluator of a proxy that knows the reference profile and nothing else. -/
def referenceEvaluator : PolicyEvaluator := PolicyEvaluator.new.register referenceProfile

end

end Mcps.Policy
