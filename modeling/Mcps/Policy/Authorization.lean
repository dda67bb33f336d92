import Mcps.Policy.Reference

/-!
# What the policy allows

`Authorized` lists what has to hold of a verified request for the reference profile to
allow it, in the terms of the request and the artifact and not of the order of the checks.
Each check of the profile is inverted once; put together, the evaluator allows exactly the
authorized requests.
-/

namespace Mcps.Policy

open Option Except Json

/-! ## The conditions -/

/-- The operation is the one the request asks for: its method, the target that method names
in the parameters, and arguments within the constraints. -/
structure Grant.Permits (operation : Grant) (request : Value) : Prop where
  method : (request.get "method").bind Json.asStr = some operation.method
  target :
    (operation.method = "tools/call" ∨ operation.method = "prompts/get") ∧
        ((request.get "params").bind (Json.get "name")).bind Json.asStr = some operation.tool ∨
      operation.method = "resources/read" ∧
        ((request.get "params").bind (Json.get "uri")).bind Json.asStr = some operation.tool
  arguments : ∀ constraint, operation.arguments = some constraint →
    ∃ members, constraint = .object members ∧ ∀ entry ∈ members, ∃ value,
      ((request.get "params").bind (Json.get "arguments")).bind (Json.get entry.1) = some value ∧
        SameValue value entry.2

/-- The window of the grant contains the time. -/
def ReferenceGrant.OpenAt (grant : ReferenceGrant) (now : Int) : Prop :=
  ∃ notBefore expiresAt, parseRfc3339Utc grant.notBefore = .ok notBefore ∧
    parseRfc3339Utc grant.expiresAt = .ok expiresAt ∧ notBefore ≤ now ∧ now ≤ expiresAt

/-! ## The checks -/

/-- The members of an artifact that a grant is read from. -/
structure ReferenceGrant.ReadFrom (grant : ReferenceGrant) (members : List (String × Value)) :
    Prop where
  issuer : Assoc.find? "issuer" members = some (.string grant.issuer)
  grantee : Assoc.find? "grantee" members = some (.string grant.grantee)
  subject : Assoc.find? "subject" members = some (.string grant.subject)
  audience : Assoc.find? "audience" members = some (.string grant.audience)
  grants : (Assoc.find? "grants" members).bind readGrants = some grant.grants
  notBefore : Assoc.find? "not_before" members = some (.string grant.notBefore)
  expiresAt : Assoc.find? "expires_at" members = some (.string grant.expiresAt)
  revocationId : Assoc.find? "revocation_id" members = some (.string grant.revocationId)
  signature : (Assoc.find? "signature" members).bind readGrantSignature = some grant.signature

variable {grant : ReferenceGrant}

theorem readReferenceGrant_eq_some {members : List (String × Value)} :
    readReferenceGrant (.object members) = some grant ↔ grant.ReadFrom members := by
  simp only [readReferenceGrant, structFields, bind_eq_bind, bind_some, pure_def, some.injEq,
    ↓bind_asStr_eq_some, bind_eq_some_iff]
  constructor
  · rintro ⟨_, issuer, _, grantee, _, subject, _, audience, _, grants, _, notBefore, _, expiresAt,
      _, revocationId, _, signature, rfl⟩
    exact ⟨issuer, grantee, subject, audience, bind_eq_some_iff.mpr grants, notBefore, expiresAt,
      revocationId, bind_eq_some_iff.mpr signature⟩
  · intro read
    exact ⟨_, read.issuer, _, read.grantee, _, read.subject, _, read.audience, _,
      bind_eq_some_iff.mp read.grants, _, read.notBefore, _, read.expiresAt, _, read.revocationId,
      _, bind_eq_some_iff.mp read.signature, rfl⟩

theorem checkWindow_eq_ok {now : Int} : checkWindow grant now = .ok () ↔ grant.OpenAt now := by
  simp only [checkWindow, bind_eq_ok, mapError_eq_ok]
  constructor
  · rintro ⟨notBefore, startParsed, expiresAt, endParsed, inside⟩
    obtain ⟨inside, _⟩ := guard_eq_ok.mp inside
    exact ⟨notBefore, expiresAt, startParsed, endParsed, by omega, by omega⟩
  · rintro ⟨notBefore, expiresAt, startParsed, endParsed, _, _⟩
    refine ⟨notBefore, startParsed, expiresAt, endParsed, ?_⟩
    exact guard_eq_ok.mpr ⟨by omega, rfl⟩

theorem checkRevocation_eq_ok {revocation : RevocationSource} {revocationId : String} :
    checkRevocation revocation revocationId = .ok () ↔
      revocation revocationId = .ok .notRevoked := by
  unfold checkRevocation
  split
  next answer => simp [answer]
  next answer => simp [answer]
  next answer => simp [answer]

theorem argumentsSatisfied_eq_true {constraint actual : Option Value} :
    argumentsSatisfied constraint actual = true ↔
      ∀ required, constraint = some required → ∃ members, required = .object members ∧
        ∀ entry ∈ members, ∃ value, actual.bind (get entry.1) = some value ∧
          SameValue value entry.2 := by
  cases constraint with
  | none => simp [argumentsSatisfied]
  | some required =>
    cases required with
    | object members =>
      cases held : actual.bind asObject with
      | some given =>
        cases bind_asObject_eq_some.mp held
        simp [argumentsSatisfied, any_eq_true]
      | none =>
        have absent : ∀ key, actual.bind (get key) = none := by
          intro key
          cases actual with
          | none => rfl
          | some given => cases given <;> simp_all [Json.get]
        simp [argumentsSatisfied, held, absent, List.eq_nil_iff_forall_not_mem]
    | _ => simp [argumentsSatisfied]

theorem targetKey_bind_eq_some {method tool : String} {read : String → Option String} :
    (targetKey method).bind read = some tool ↔
      (method = "tools/call" ∨ method = "prompts/get") ∧ read "name" = some tool ∨
        method = "resources/read" ∧ read "uri" = some tool := by
  unfold targetKey
  split
  next named =>
    have other : method ≠ "resources/read" := by
      rintro rfl
      revert named
      decide
    simp [named, other]
  next unnamed =>
    split
    next located => simp [located]
    next unlocated => simp [unnamed, unlocated]

theorem checkScope_eq_ok {request : Value} :
    checkScope grant request = .ok () ↔
      ∃ operation ∈ grant.grants, operation.Permits request := by
  cases named : (request.get "method").bind asStr with
  | none =>
    have refused : checkScope grant request = .error .authorizationScopeDenied := by
      simp [checkScope, named, targetKey]
    rw [refused]
    constructor
    · nofun
    · rintro ⟨operation, _, permits⟩
      rw [permits.method] at named
      cases named
  | some method =>
    have scope : checkScope grant request = .ok () ↔ ∃ tool,
        (targetKey method).bind (fun key =>
          ((request.get "params").bind (get key)).bind asStr) = some tool ∧
        ∃ operation ∈ grant.grants, operation.method = method ∧ operation.tool = tool ∧
          argumentsSatisfied operation.arguments
            ((request.get "params").bind (get "arguments")) = true := by
      simp only [checkScope, named, bind_eq_ok, okOr_eq_ok]
      apply exists_congr
      intro tool
      apply and_congr_right
      intro _
      split
      next permitted => simpa [and_assoc] using permitted
      next refused => simpa [and_assoc] using refused
    rw [scope]
    constructor
    · rintro ⟨tool, target, operation, granted, rfl, rfl, satisfied⟩
      exact ⟨operation, granted, named, targetKey_bind_eq_some.mp target,
        argumentsSatisfied_eq_true.mp satisfied⟩
    · rintro ⟨operation, granted, permits⟩
      cases named.symm.trans permits.method
      exact ⟨operation.tool, targetKey_bind_eq_some.mpr permits.target, operation, granted, rfl,
        rfl, argumentsSatisfied_eq_true.mpr permits.arguments⟩

/-! ## Artifacts -/

section

variable [Crates]

/-- The request carries an artifact for a profile in a well-shaped authorization block. -/
def Carries (request : Value) (profile : String) (artifactBytes : Bytes) : Prop :=
  ∃ members text,
    ((request.get "params").bind (Json.get "_meta")).bind (Json.get authorizationMetaKey) =
      some (.object members) ∧
    Assoc.find? "profile" members = some (.string profile) ∧
    Assoc.find? "artifact" members = some (.string text) ∧
    Crates.b64urlDecode text = some artifactBytes

/-- The verified request is bound to an artifact with these canonical bytes. -/
def BoundTo (canonical : Bytes) : VerifiedAuthorization → Prop
  | .draft01Hash authorizationHash => authorizationHash = sha256HashId canonical
  | .draft02Binding (.opaqueBytes _ digestValue) =>
    digestValue = Crates.b64urlEncode (Crates.sha256 canonical)
  | .draft02Binding (.authzSystemReference _ _ _ _ _) => False

/-- The issuer's Ed25519 signature holds over the canonical artifact without its signature
value; the artifact and its signature block are objects. -/
structure IssuerSigned (artifact : Value) (grant : ReferenceGrant) (resolver : TrustResolver) :
    Prop where
  objects : ∃ members block, artifact = .object members ∧
    Assoc.find? "signature" members = some (.object block)
  algorithm : grant.signature.alg = sigAlgEd25519
  verifies : ∃ preimage key signature,
    canonicalizeJsonValue (artifact.erasePath ["signature", "value"]) = .ok preimage ∧
    resolver grant.issuer grant.signature.keyId = .ok key ∧
    Crates.b64urlDecode grant.signature.value = some signature ∧ signature.length = 64 ∧
    Crates.verifyStrict key.inner preimage signature = true

/-- The grant of an artifact covers a verified request at a time. -/
structure ReferenceGrant.Covers (grant : ReferenceGrant) (verified : VerifiedRequest)
    (request : Value) (revocation : RevocationSource) (now : Int) : Prop where
  grantee : grant.grantee = verified.verifiedSigner
  subject : grant.subject = verified.onBehalfOf
  audience : grant.audience = verified.audience
  window : grant.OpenAt now
  notRevoked : revocation grant.revocationId = .ok .notRevoked
  targeted : ∀ operation ∈ grant.grants, operation.tool ≠ ""
  permitted : ∃ operation ∈ grant.grants, operation.Permits request

/-- An artifact as it is carried and as it is read. -/
structure Artifact where
  bytes : Bytes
  canonical : Bytes
  value : MapValue
  grant : ReferenceGrant

/-- The artifact reads as a signed grant that covers the request. -/
structure Artifact.Authorizes (artifact : Artifact) (verified : VerifiedRequest) (request : Value)
    (resolver : TrustResolver) (revocation : RevocationSource) (now : Int) : Prop where
  canonicalized : canonicalize artifact.bytes = .ok artifact.canonical
  parsed : Crates.fromSlice artifact.canonical = some artifact.value
  deserialized : readReferenceGrant artifact.value.val = some artifact.grant
  signed : IssuerSigned artifact.value.val artifact.grant resolver
  covers : artifact.grant.Covers verified request revocation now

variable {grant : ReferenceGrant} {resolver : TrustResolver}

theorem verifyIssuerSignature_eq_ok {artifact : Value} :
    verifyIssuerSignature artifact grant resolver = .ok () ↔
      IssuerSigned artifact grant resolver := by
  simp only [verifyIssuerSignature, throw_eq_error, bind_error, bind_eq_ok, guard_eq_ok, not_not,
    okOr_eq_ok, bind_asObject_eq_some, mapError_eq_ok, verifyEd25519With_eq_ok]
  constructor
  · rintro ⟨algorithm, block, located, preimage, canonical, key, resolved, signature, decoded,
      length, verifies⟩
    obtain ⟨members, rfl, found⟩ := get_eq_some located
    exact ⟨⟨members, block, rfl, found⟩, algorithm, preimage, key, signature, canonical, resolved,
      decoded, length, verifies⟩
  · rintro ⟨⟨members, block, rfl, located⟩, algorithm, preimage, key, signature, canonical,
      resolved, decoded, length, verifies⟩
    exact ⟨algorithm, block, located, preimage, canonical, key, resolved, signature, decoded,
      length, verifies⟩

variable {artifactBytes : Bytes} {verified : VerifiedRequest} {request : Value}
  {revocation : RevocationSource}

theorem ReferenceProfile.evaluateInner_eq_ok {now : Int} :
    evaluateInner artifactBytes verified request resolver revocation now = .ok () ↔
      ∃ artifact : Artifact, artifact.bytes = artifactBytes ∧
        artifact.Authorizes verified request resolver revocation now := by
  simp only [evaluateInner, throw_eq_error, bind_error, bind_eq_ok, guard_eq_ok, mapError_eq_ok,
    okOr_eq_ok, not_not]
  constructor
  · rintro ⟨canonical, canonicalized, value, parsed, grant, deserialized, _, signed, grantee,
      subject, audience, _, window, _, notRevoked, targeted, scope⟩
    exact ⟨⟨artifactBytes, canonical, value, grant⟩, rfl, canonicalized, parsed, deserialized,
      verifyIssuerSignature_eq_ok.mp signed, grantee, subject, audience,
      checkWindow_eq_ok.mp window, checkRevocation_eq_ok.mp notRevoked, by simpa using targeted,
      checkScope_eq_ok.mp scope⟩
  · rintro ⟨⟨_, canonical, value, grant⟩, rfl, canonicalized, parsed, deserialized, signed, covers⟩
    exact ⟨canonical, canonicalized, value, parsed, grant, deserialized, (),
      verifyIssuerSignature_eq_ok.mpr signed, covers.grantee, covers.subject, covers.audience, (),
      checkWindow_eq_ok.mpr covers.window, (), checkRevocation_eq_ok.mpr covers.notRevoked,
      by simpa using covers.targeted, checkScope_eq_ok.mpr covers.permitted⟩

theorem ReferenceProfile.authorize_eq_allow {now : Int} :
    authorize artifactBytes verified request resolver revocation now = .allow ↔
      ∃ artifact : Artifact, artifact.bytes = artifactBytes ∧
        artifact.Authorizes verified request resolver revocation now := by
  rw [← evaluateInner_eq_ok, authorize]
  split
  next passed => simp [passed]
  next failed => simp [failed]

theorem ReferenceProfile.authorize_eq_allow_of_read {bytes canonical : Bytes} {value : MapValue}
    {now : Int} (canonicalized : canonicalize bytes = .ok canonical)
    (parsed : Crates.fromSlice canonical = some value)
    (deserialized : readReferenceGrant value.val = some grant)
    (signed : IssuerSigned value.val grant resolver) :
    authorize bytes verified request resolver revocation now = .allow ↔
      grant.Covers verified request revocation now := by
  rw [authorize_eq_allow]
  constructor
  · rintro ⟨⟨_, _, _, _⟩, rfl, authorizes⟩
    cases canonicalized.symm.trans authorizes.canonicalized
    cases parsed.symm.trans authorizes.parsed
    cases deserialized.symm.trans authorizes.deserialized
    exact authorizes.covers
  · intro covers
    exact ⟨⟨bytes, canonical, value, grant⟩, rfl, canonicalized, parsed, deserialized, signed, covers⟩

/-! ## The evaluator -/

omit [Crates] in
theorem extractAuthorizationBlock_eq_ok {block : AuthorizationBlock} :
    extractAuthorizationBlock request = .ok block ↔ ∃ members,
      ((request.get "params").bind (get "_meta")).bind (get authorizationMetaKey) =
        some (.object members) ∧
      Assoc.find? "profile" members = some (.string block.profile) ∧
      Assoc.find? "artifact" members = some (.string block.artifactB64url) := by
  simp only [extractAuthorizationBlock, bind_eq_ok, okOr_eq_ok, bind_asStr_eq_some]
  constructor
  · rintro ⟨held, located, members, isObject, _, named, _, carried, ⟨⟩⟩
    cases held <;> cases isObject
    exact ⟨members, located, named, carried⟩
  · rintro ⟨members, located, named, carried⟩
    exact ⟨_, located, members, rfl, _, named, _, carried, rfl⟩

section

variable {evaluator : PolicyEvaluator} {verified : VerifiedRequest} {request : Value}
  {resolver : TrustResolver} {revocation : RevocationSource} {now : Int} {label : String}
  {checkBinding : String → Except PolicyError Unit}

theorem registered_referenceEvaluator :
    referenceEvaluator.profiles.get? referenceProfileId = some referenceProfile :=
  Assoc.SortedMap.get?_insert_self

theorem evaluateArtifactBinding_of_carries {artifactBytes canonical : Bytes}
    (registered : evaluator.profiles.get? label = some referenceProfile)
    (carries : Carries request label artifactBytes)
    (canonicalized : canonicalize artifactBytes = .ok canonical) :
    evaluator.evaluateArtifactBinding verified request resolver revocation now checkBinding =
      (checkBinding (sha256HashId canonical)).map fun _ =>
        ReferenceProfile.authorize artifactBytes verified request resolver revocation now := by
  obtain ⟨members, text, located, named, carried, decoded⟩ := carries
  have extracted : extractAuthorizationBlock request = .ok ⟨label, text⟩ :=
    extractAuthorizationBlock_eq_ok.mpr ⟨members, located, named, carried⟩
  have expected : referenceProfile.expectedAuthorizationHash artifactBytes =
      .ok (sha256HashId canonical) := by
    simp only [referenceProfile, ReferenceProfile.expectedAuthorizationHash, canonicalized]
    rfl
  simp only [PolicyEvaluator.evaluateArtifactBinding, extracted, registered, expected,
    AuthorizationBlock.decodedArtifact, decoded, okOr_some, bind_ok]
  cases checkBinding (sha256HashId canonical) with
  | error _ | ok _ => rfl

theorem carries_of_evaluateArtifactBinding {decision : AuthorizationDecision}
    (decided : referenceEvaluator.evaluateArtifactBinding verified request resolver revocation now
      checkBinding = .ok decision) :
    ∃ artifactBytes canonical, Carries request referenceProfileId artifactBytes ∧
      canonicalize artifactBytes = .ok canonical := by
  simp only [PolicyEvaluator.evaluateArtifactBinding, bind_eq_ok, okOr_eq_ok,
    extractAuthorizationBlock_eq_ok] at decided
  obtain ⟨block, ⟨members, located, named, carried⟩, _, found, artifactBytes, decoded, _, hashed,
    _⟩ := decided
  have known : block.profile = referenceProfileId := by
    by_contra other
    have absent : referenceEvaluator.profiles.get? block.profile = none :=
      Assoc.SortedMap.get?_insert_ne other
    rw [absent] at found
    cases found
  rw [known] at found named
  cases found.symm.trans registered_referenceEvaluator
  obtain ⟨canonical, canonicalized, _⟩ := bind_eq_ok.mp hashed
  exact ⟨artifactBytes, canonical,
    ⟨members, _, located, named, carried, okOr_eq_ok.mp decoded⟩,
    mapError_eq_ok.mp canonicalized⟩

/-- The binding check of a request that is bound to an artifact. -/
def bindingCheck : VerifiedAuthorization → Option (String → Except PolicyError Unit)
  | .draft01Hash authorizationHash => some (PolicyEvaluator.checkDraft01Hash authorizationHash)
  | .draft02Binding (.opaqueBytes _ digestValue) =>
    some (PolicyEvaluator.checkOpaqueDigest digestValue)
  | .draft02Binding (.authzSystemReference _ _ _ _ _) => none

variable {authorization : VerifiedAuthorization}

theorem bindingCheck_spec (selected : bindingCheck authorization = some checkBinding)
    (canonical : Bytes) :
    BoundTo canonical authorization ∧ checkBinding (sha256HashId canonical) = .ok () ∨
      ¬ BoundTo canonical authorization ∧
        checkBinding (sha256HashId canonical) = .error .authorizationHashMismatch := by
  cases authorization with
  | draft01Hash authorizationHash =>
    cases selected
    by_cases bound : sha256HashId canonical = authorizationHash
    · exact .inl ⟨bound.symm, if_pos bound⟩
    · exact .inr ⟨fun same => bound same.symm, if_neg bound⟩
  | draft02Binding binding =>
    cases binding with
    | opaqueBytes digestAlg digestValue =>
      cases selected
      have bare : bareDigest (sha256HashId canonical) =
          Crates.b64urlEncode (Crates.sha256 canonical) := bareDigest_tagged _
      by_cases bound : bareDigest (sha256HashId canonical) = digestValue
      · exact .inl ⟨bound.symm.trans bare, if_pos bound⟩
      · refine .inr ⟨fun same => bound ?_, if_neg bound⟩
        exact bare.trans same.symm
    | authzSystemReference _ _ _ _ _ => cases selected

theorem evaluateInner_of_bindingCheck
    (selected : bindingCheck verified.authorization = some checkBinding) :
    evaluator.evaluateInner verified request resolver revocation now =
      evaluator.evaluateArtifactBinding verified request resolver revocation now checkBinding := by
  unfold PolicyEvaluator.evaluateInner
  cases held : verified.authorization with
  | draft01Hash authorizationHash =>
    rw [held] at selected
    cases selected
    rfl
  | draft02Binding binding =>
    rw [held] at selected
    cases binding with
    | opaqueBytes digestAlg digestValue =>
      cases selected
      rfl
    | authzSystemReference _ _ _ _ _ => cases selected

theorem not_boundTo_of_reference (reference : bindingCheck authorization = none)
    (canonical : Bytes) : ¬ BoundTo canonical authorization := by
  cases authorization with
  | draft01Hash authorizationHash => cases reference
  | draft02Binding binding =>
    cases binding with
    | opaqueBytes digestAlg digestValue => cases reference
    | authzSystemReference _ _ _ _ _ => exact id

theorem evaluate_of_reference (reference : bindingCheck verified.authorization = none) :
    referenceEvaluator.evaluate verified request resolver revocation now =
      .deny .authorizationBindingProfileRequired := by
  unfold PolicyEvaluator.evaluate PolicyEvaluator.evaluateInner
  cases held : verified.authorization with
  | draft01Hash authorizationHash =>
    rw [held] at reference
    cases reference
  | draft02Binding binding =>
    rw [held] at reference
    cases binding with
    | opaqueBytes digestAlg digestValue => cases reference
    | authzSystemReference _ _ _ _ _ => rfl

/-- The evaluator's decision on a request that carries an acceptable artifact. -/
theorem evaluate_of_carries {artifactBytes canonical : Bytes}
    (registered : evaluator.profiles.get? label = some referenceProfile)
    (selected : bindingCheck verified.authorization = some checkBinding)
    (carries : Carries request label artifactBytes)
    (canonicalized : canonicalize artifactBytes = .ok canonical) :
    BoundTo canonical verified.authorization ∧
        evaluator.evaluate verified request resolver revocation now =
          ReferenceProfile.authorize artifactBytes verified request resolver revocation now ∨
      ¬ BoundTo canonical verified.authorization ∧
        evaluator.evaluate verified request resolver revocation now =
          .deny .authorizationHashMismatch := by
  rw [PolicyEvaluator.evaluate, evaluateInner_of_bindingCheck selected,
    evaluateArtifactBinding_of_carries registered carries canonicalized]
  rcases bindingCheck_spec selected canonical with ⟨bound, passed⟩ | ⟨unbound, failed⟩
  · rw [passed]
    exact .inl ⟨bound, rfl⟩
  · rw [failed]
    exact .inr ⟨unbound, rfl⟩

/-- Authorization is exact: with the reference profile registered and nothing else, the
evaluator allows a verified request if and only if the request carries an artifact for that
profile, is bound to its canonical bytes, and the artifact authorizes it. -/
theorem evaluate_eq_allow_iff (verified : VerifiedRequest) (request : Value)
    (resolver : TrustResolver) (revocation : RevocationSource) (now : Int) :
    referenceEvaluator.evaluate verified request resolver revocation now = .allow ↔
      ∃ artifact : Artifact, Carries request referenceProfileId artifact.bytes ∧
        BoundTo artifact.canonical verified.authorization ∧
        artifact.Authorizes verified request resolver revocation now := by
  constructor
  · intro allowed
    cases selected : bindingCheck verified.authorization with
    | none =>
      rw [evaluate_of_reference selected] at allowed
      cases allowed
    | some checkBinding =>
      have decided : ∃ decision, referenceEvaluator.evaluateArtifactBinding verified request
          resolver revocation now checkBinding = .ok decision := by
        rw [PolicyEvaluator.evaluate, evaluateInner_of_bindingCheck selected] at allowed
        split at allowed
        next decision decided => exact ⟨decision, decided⟩
        next => cases allowed
      rcases decided with ⟨decision, decided⟩
      rcases carries_of_evaluateArtifactBinding decided with
        ⟨artifactBytes, canonical, carries, canonicalized⟩
      rcases @evaluate_of_carries _ _ verified request resolver revocation now _ _ _ _
        registered_referenceEvaluator selected carries canonicalized with
        ⟨bound, same⟩ | ⟨_, same⟩
      · rw [same] at allowed
        rcases ReferenceProfile.authorize_eq_allow.mp allowed with ⟨artifact, rfl, authorizes⟩
        cases canonicalized.symm.trans authorizes.canonicalized
        exact ⟨artifact, carries, bound, authorizes⟩
      · rw [same] at allowed
        cases allowed
  · rintro ⟨artifact, carries, bound, authorizes⟩
    cases selected : bindingCheck verified.authorization with
    | none => exact absurd bound (not_boundTo_of_reference selected _)
    | some checkBinding =>
      rcases @evaluate_of_carries _ _ verified request resolver revocation now _ _ _ _
        registered_referenceEvaluator selected carries authorizes.canonicalized with
        ⟨_, same⟩ | ⟨unbound, _⟩
      · rw [same]
        exact ReferenceProfile.authorize_eq_allow.mpr ⟨artifact, rfl, authorizes⟩
      · exact absurd bound unbound

end

end

end Mcps.Policy
