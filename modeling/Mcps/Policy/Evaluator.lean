import Mcps.Core.Wire

/-!
# The policy evaluator

Core verifies a request together with an opaque commitment to an authorization artifact.
The evaluator finds the artifact in the request's `.authorization` block, has the profile
the block names reproduce the commitment, and only then lets the profile interpret the
artifact.  A reference into an external authorization system goes to the resolver
registered for that system.

Profiles, reference resolvers and revocation sources are injected; each is given by its
answers.
-/

namespace Mcps.Policy

/-! ## Revocation -/

inductive RevocationStatus where
  | notRevoked
  | revoked
  deriving DecidableEq, Repr

/-- The status could not be determined. -/
structure RevocationUnavailable where
  details : String
  deriving DecidableEq, Repr

abbrev RevocationSource :=
  (revocationId : String) → Except RevocationUnavailable RevocationStatus

/-- A deny-list held in memory, which is always available. -/
def inMemoryRevocationSource (revoked : List String) : RevocationSource := fun revocationId =>
  .ok (if revocationId ∈ revoked then .revoked else .notRevoked)

/-! ## The authorization block -/

/-- The profile that interprets the artifact, and the artifact in base64url. -/
structure AuthorizationBlock where
  profile : String
  artifactB64url : String
  deriving DecidableEq, Repr

def AuthorizationBlock.decodedArtifact [Crates] (block : AuthorizationBlock) :
    Except PolicyError Bytes :=
  (Crates.b64urlDecode block.artifactB64url).okOr .authorizationMalformed

/-- Read the authorization block of a request. -/
def extractAuthorizationBlock (request : Value) : Except PolicyError AuthorizationBlock := do
  let block ← (((request.get "params").bind (Json.get "_meta")).bind
    (Json.get authorizationMetaKey)).okOr .authorizationBlockMissing
  let object ← block.asObject.okOr .authorizationMalformed
  let profile ← ((Assoc.find? "profile" object).bind Json.asStr).okOr .authorizationMalformed
  let artifactB64url ← ((Assoc.find? "artifact" object).bind Json.asStr).okOr
    .authorizationMalformed
  return ⟨profile, artifactB64url⟩

/-! ## Profiles and reference resolvers -/

/-- An interpreter of artifacts: the hash it expects a request to be bound to, and its
decision on a verified request. -/
structure AuthorizationProfile where
  profileId : String
  expectedAuthorizationHash : (artifactBytes : Bytes) → Except PolicyError String
  authorize : (artifactBytes : Bytes) → VerifiedRequest → (request : Value) → TrustResolver →
    RevocationSource → (now : Int) → AuthorizationDecision

/-- The validator of references into one authorization system. -/
structure AuthorizationReferenceResolver where
  authorizationSystemId : String
  authorizeReference : AuthorizationBinding → VerifiedRequest → (request : Value) →
    TrustResolver → RevocationSource → (now : Int) → AuthorizationDecision

/-! ## Evaluation -/

/-- A hash identifier without its `sha256:` tag, if it has one. -/
def bareDigest (hashId : String) : String :=
  match (textChars hashId).dropPrefix? (textChars "sha256:") with
  | some digest => String.ofList digest
  | none => hashId

@[simp] theorem bareDigest_tagged (digest : String) : bareDigest ("sha256:" ++ digest) = digest := by
  have tagged : (textChars ("sha256:" ++ digest)).dropPrefix? (textChars "sha256:") =
      some (textChars digest) := by
    rw [List.dropPrefix?_eq_some_iff]
    refine ⟨textChars "sha256:", ?_, by simp⟩
    simp
  rw [bareDigest, tagged]
  simp

/-- The registered profiles and reference resolvers, each under its id. -/
structure PolicyEvaluator where
  profiles : Assoc.SortedMap codePointLt AuthorizationProfile
  referenceResolvers : Assoc.SortedMap codePointLt AuthorizationReferenceResolver

namespace PolicyEvaluator

def new : PolicyEvaluator := ⟨.empty, .empty⟩

def register (evaluator : PolicyEvaluator) (profile : AuthorizationProfile) : PolicyEvaluator :=
  { evaluator with profiles := evaluator.profiles.insert profile.profileId profile }

def registerReferenceResolver (evaluator : PolicyEvaluator)
    (resolver : AuthorizationReferenceResolver) : PolicyEvaluator :=
  { evaluator with
    referenceResolvers :=
      evaluator.referenceResolvers.insert resolver.authorizationSystemId resolver }

section

variable [Crates] (evaluator : PolicyEvaluator) (verified : VerifiedRequest) (request : Value)
  (resolver : TrustResolver) (revocation : RevocationSource) (now : Int)

/-- Check the binding of the artifact, then let the profile decide. -/
def evaluateArtifactBinding (checkBinding : String → Except PolicyError Unit) :
    Except PolicyError AuthorizationDecision := do
  let block ← extractAuthorizationBlock request
  let profile ← (evaluator.profiles.get? block.profile).okOr .authorizationProfileUnsupported
  let artifactBytes ← block.decodedArtifact
  let expected ← profile.expectedAuthorizationHash artifactBytes
  checkBinding expected
  return profile.authorize artifactBytes verified request resolver revocation now

/-- A draft-01 request is bound by the whole hash identifier. -/
def checkDraft01Hash (authorizationHash expected : String) : Except PolicyError Unit :=
  if expected = authorizationHash then .ok () else .error .authorizationHashMismatch

/-- A draft-02 opaque-bytes binding holds the bare digest. -/
def checkOpaqueDigest (digestValue expected : String) : Except PolicyError Unit :=
  if bareDigest expected = digestValue then .ok () else .error .authorizationHashMismatch

def evaluateInner : Except PolicyError AuthorizationDecision :=
  match verified.authorization with
  | .draft01Hash authorizationHash =>
    evaluator.evaluateArtifactBinding verified request resolver revocation now
      (checkDraft01Hash authorizationHash)
  | .draft02Binding (.opaqueBytes _ digestValue) =>
    evaluator.evaluateArtifactBinding verified request resolver revocation now
      (checkOpaqueDigest digestValue)
  | .draft02Binding binding@(.authzSystemReference authorizationSystemId _ _ _ _) => do
    let resolverForSystem ← (evaluator.referenceResolvers.get? authorizationSystemId).okOr
      .authorizationBindingProfileRequired
    return resolverForSystem.authorizeReference binding verified request resolver revocation now

/-- Evaluate a verified request; a structural problem is a denial. -/
def evaluate : AuthorizationDecision :=
  match evaluator.evaluateInner verified request resolver revocation now with
  | .ok decision => decision
  | .error error => .deny error

end

end PolicyEvaluator

end Mcps.Policy
