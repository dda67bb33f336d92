import Mcps.Policy.OpaqueBytes

/-!
# What the reference profile does not read

The issuer signs the whole artifact, but the profile decides on what it reads of it.  A
constraint on the arguments is read as an optional value, for which null stands for none at
all.  The profile the artifact was issued for is not read: the block around the artifact,
which the issuer does not sign, alone says how to read it.
-/

namespace Mcps.Policy

open List Option Json

/-! ## The scope without one grant -/

/-- An array without the item at an index. -/
def eraseItem (index : Nat) : Value → Value
  | .array items => .array (items.eraseIdx index)
  | other => other

/-- The artifact without the grant at an index. -/
def withoutGrant (index : Nat) (artifact : Value) : Value :=
  artifact.updateMember "grants" (eraseItem index)

theorem mapM_eraseIdx {α β : Type} {read : α → Option β} {items : List α} {values : List β}
    (made : items.mapM read = some values) (index : Nat) :
    (items.eraseIdx index).mapM read = some (values.eraseIdx index) := by
  rw [mapM_eq_some] at made ⊢
  rw [eraseIdx_eq_take_drop_succ, eraseIdx_eq_take_drop_succ]
  exact rel_append (forall₂_take index made) (forall₂_drop (index + 1) made)

theorem readGrants_eraseIdx {held : Option Value} {grants : List Grant}
    (read : held.bind readGrants = some grants) (index : Nat) :
    (held.map (eraseItem index)).bind readGrants = some (grants.eraseIdx index) := by
  cases held with
  | none => cases read
  | some value =>
    cases value with
    | array items => exact mapM_eraseIdx read index
    | _ => cases read

theorem readReferenceGrant_withoutGrant {members : List (String × Value)} {grant : ReferenceGrant}
    (read : readReferenceGrant (.object members) = some grant) (index : Nat) :
    readReferenceGrant (withoutGrant index (.object members)) =
      some { grant with grants := grant.grants.eraseIdx index } := by
  have others (name : String) (different : name ≠ "grants") :
      (withoutGrant index (.object members)).get name = Assoc.find? name members :=
    get_updateMember_ne different _ _
  have read := readReferenceGrant_eq_some.mp read
  refine readReferenceGrant_eq_some.mpr ?_
  exact {
    issuer := (others "issuer" (by decide)).trans read.issuer
    grantee := (others "grantee" (by decide)).trans read.grantee
    subject := (others "subject" (by decide)).trans read.subject
    audience := (others "audience" (by decide)).trans read.audience
    grants := by
      rw [← readGrants_eraseIdx read.grants index]
      exact congrArg (·.bind readGrants) (get_updateMember_self "grants" _ (.object members))
    notBefore := (others "not_before" (by decide)).trans read.notBefore
    expiresAt := (others "expires_at" (by decide)).trans read.expiresAt
    revocationId := (others "revocation_id" (by decide)).trans read.revocationId
    signature := by
      rw [← read.signature]
      exact congrArg (·.bind readGrantSignature) (others "signature" (by decide)) }

/-! ## Constraints that are not objects -/

/-- What the grants of an artifact say to a request. -/
def scopeDecision (artifact request : Value) : Option (Except PolicyError Unit) :=
  (readReferenceGrant artifact).map fun grant => checkScope grant request

/-- The grant at an index makes no difference to any request. -/
def AuthorizesNothing (artifact : Value) (index : Nat) : Prop :=
  ∀ request, scopeDecision artifact request = scopeDecision (withoutGrant index artifact) request

/-- The constraint on the arguments that a grant states. -/
def statedConstraint (item : Value) : Option Value :=
  (structFields ["method", "tool", "arguments"] item).bind fun field => field "arguments"

/-- An artifact states for one of its grants a constraint that is not an object. -/
structure NonObjectConstraint (artifact : Value) (grant : ReferenceGrant) (index : Nat)
    (operation : Grant) (constraint : Value) : Prop where
  object : ∃ members, artifact = .object members
  read : readReferenceGrant artifact = some grant
  stated : ∃ items item, artifact.get "grants" = some (.array items) ∧ items[index]? = some item ∧
    readGrant item = some operation ∧ statedConstraint item = some constraint
  notObject : constraint.asObject = none

variable {operation : Grant}

theorem arguments_of_readGrant {item : Value} (read : readGrant item = some operation) :
    operation.arguments = optionalValue (statedConstraint item) := by
  obtain ⟨_, isField, read⟩ := bind_eq_some_iff.mp read
  obtain ⟨_, _, read⟩ := bind_eq_some_iff.mp read
  obtain ⟨_, _, read⟩ := bind_eq_some_iff.mp read
  cases read
  rw [statedConstraint, isField, bind_some]

theorem failsWith_checkScope (grant : ReferenceGrant) (request : Value) :
    (checkScope grant request).FailsWith .authorizationScopeDenied := by
  apply Except.FailsWith.bind (Except.failsWith_okOr _ _)
  intro tool
  exact Except.FailsWith.ite (Except.failsWith_ok _ _) (Except.failsWith_error _)

variable {request : Value}

theorem checkScope_eq_checkScope_iff {left right : ReferenceGrant} :
    checkScope left request = checkScope right request ↔
      ((∃ operation ∈ left.grants, operation.Permits request) ↔
        ∃ operation ∈ right.grants, operation.Permits request) := by
  rw [← checkScope_eq_ok, ← checkScope_eq_ok]
  constructor
  · intro same
    rw [same]
  · intro same
    cases decided : checkScope left request with
    | ok _ => exact (same.mp decided).symm
    | error failure =>
      cases other : checkScope right request with
      | ok _ => cases decided.symm.trans (same.mpr other)
      | error reason =>
        rw [failsWith_checkScope left request failure decided,
          failsWith_checkScope right request reason other]

section

variable {artifact : Value} {grant : ReferenceGrant} {index : Nat} {operation : Grant}
  {constraint : Value}

theorem NonObjectConstraint.granted
    (states : NonObjectConstraint artifact grant index operation constraint) :
    grant.grants[index]? = some operation := by
  obtain ⟨members, rfl⟩ := states.object
  obtain ⟨_, _, held, listed, isRead, _⟩ := states.stated
  have read := (readReferenceGrant_eq_some.mp states.read).grants
  change Assoc.find? "grants" members = _ at held
  rw [held] at read
  have related := mapM_eq_some.mp read
  obtain ⟨inside, rfl⟩ := List.getElem?_eq_some_iff.mp listed
  have inGrants : index < grant.grants.length := related.length_eq ▸ inside
  have same := related.get inside inGrants
  rw [getElem?_eq_getElem inGrants]
  exact same.symm.trans isRead

theorem NonObjectConstraint.authorizesNothing_iff_read
    (states : NonObjectConstraint artifact grant index operation constraint) :
    AuthorizesNothing artifact index ↔ ∀ request, operation.Permits request →
      ∃ other ∈ grant.grants.eraseIdx index, other.Permits request := by
  obtain ⟨_, rfl⟩ := states.object
  obtain ⟨inside, same⟩ := List.getElem?_eq_some_iff.mp states.granted
  have every (request : Value) : (∃ held ∈ grant.grants, held.Permits request) ↔
      operation.Permits request ∨ ∃ other ∈ grant.grants.eraseIdx index, other.Permits request := by
    have split := getElem_cons_eraseIdx_perm inside
    rw [same] at split
    simp [← split.mem_iff]
  simp only [AuthorizesNothing, scopeDecision, states.read,
    readReferenceGrant_withoutGrant states.read, map_some, some.injEq,
    checkScope_eq_checkScope_iff, every]
  constructor
  · intro alike request permits
    exact (alike request).mp (.inl permits)
  · intro covered request
    exact ⟨fun permitted => permitted.elim (covered request) id, .inr⟩

/-- A request with a method, the parameter that names its target, and no arguments. -/
def bareRequest (method key tool : String) : Value :=
  .object [("method", .string method), ("params", .object [(key, .string tool)])]

theorem Grant.Permits.target_eq {request : Value} (permits : operation.Permits request) :
    (targetKey operation.method).bind (fun key =>
      ((request.get "params").bind (get key)).bind asStr) = some operation.tool :=
  targetKey_bind_eq_some.mpr permits.target

theorem targetKey_ne_arguments {method key : String} (keyed : targetKey method = some key) :
    key ≠ "arguments" := by
  unfold targetKey at keyed
  split at keyed
  · cases keyed
    decide
  · split at keyed
    · cases keyed
      decide
    · cases keyed

theorem permits_of_unconstrained {request : Value} {other : Grant}
    (method : (request.get "method").bind asStr = some other.method)
    (target : (targetKey other.method).bind (fun key =>
      ((request.get "params").bind (get key)).bind asStr) = some other.tool)
    (unconstrained : other.arguments = none ∨ other.arguments = some (.object [])) :
    other.Permits request := by
  refine ⟨method, targetKey_bind_eq_some.mp target, ?_⟩
  intro constraint constrained
  rcases unconstrained with absent | empty
  · rw [absent] at constrained
    cases constrained
  · rw [empty] at constrained
    cases constrained
    exact ⟨[], rfl, forall_mem_nil _⟩

theorem permits_bareRequest_iff {method key tool : String} (keyed : targetKey method = some key)
    (other : Grant) :
    other.Permits (bareRequest method key tool) ↔ other.method = method ∧ other.tool = tool ∧
      (other.arguments = none ∨ other.arguments = some (.object [])) := by
  have noArguments : ((bareRequest method key tool).get "params").bind (get "arguments") =
      none := by
    simp [bareRequest, Assoc.find?, targetKey_ne_arguments keyed]
  have target : (targetKey method).bind (fun key' =>
      (((bareRequest method key tool).get "params").bind (get key')).bind asStr) =
        some tool := by
    rw [keyed]
    simp [bareRequest, Assoc.find?, asStr]
  constructor
  · intro permits
    have sameMethod : method = other.method := some.inj permits.method
    have sameTool := permits.target_eq
    rw [← sameMethod, target] at sameTool
    refine ⟨sameMethod.symm, (some.inj sameTool).symm, ?_⟩
    cases constrained : other.arguments with
    | none => exact .inl rfl
    | some constraint =>
      obtain ⟨members, rfl, met⟩ := permits.arguments constraint constrained
      right
      cases members with
      | nil => rfl
      | cons entry members =>
        obtain ⟨_, found, _⟩ := met entry mem_cons_self
        rw [noArguments] at found
        cases found
  · rintro ⟨rfl, rfl, unconstrained⟩
    exact permits_of_unconstrained rfl target unconstrained

/-- A grant whose stated constraint is not an object authorizes nothing, unless the constraint
is null: that is read as none, and the grant permits its target with any arguments.  It then
makes a difference unless its method has no target or another grant does the same. -/
theorem authorizesNothing_iff (artifact : Value) (grant : ReferenceGrant) (index : Nat)
    (operation : Grant) (constraint : Value)
    (states : NonObjectConstraint artifact grant index operation constraint) :
    AuthorizesNothing artifact index ↔ constraint ≠ .null ∨ targetKey operation.method = none ∨
      ∃ other ∈ grant.grants.eraseIdx index, other.method = operation.method ∧
        other.tool = operation.tool ∧
        (other.arguments = none ∨ other.arguments = some (.object [])) := by
  have arguments : operation.arguments = optionalValue (some constraint) := by
    rcases states.stated with ⟨_, item, _, _, read, stated⟩
    rw [arguments_of_readGrant read, stated]
  rw [states.authorizesNothing_iff_read]
  constructor
  · intro covered
    by_cases isNull : constraint = .null
    · cases keyed : targetKey operation.method with
      | none => exact .inr (.inl rfl)
      | some key =>
        right
        right
        have permits : operation.Permits (bareRequest operation.method key operation.tool) :=
          (permits_bareRequest_iff keyed operation).mpr ⟨rfl, rfl, .inl (by rw [arguments, isNull, optionalValue])⟩
        rcases covered _ permits with ⟨other, held, alsoPermits⟩
        exact ⟨other, held, (permits_bareRequest_iff keyed other).mp alsoPermits⟩
    · exact .inl isNull
  · rintro (notNull | untargeted | ⟨other, held, sameMethod, sameTool, unconstrained⟩)
    · intro request permits
      have constrained : operation.arguments = some constraint := by
        rw [arguments]
        cases constraint with
        | null => exact absurd rfl notNull
        | bool _ | number _ | string _ | array _ | object _ => rfl
      rcases permits.arguments constraint constrained with ⟨members, rfl, _⟩
      cases states.notObject
    · intro request permits
      have target := permits.target_eq
      rw [untargeted] at target
      cases target
    · intro request permits
      refine ⟨other, held, permits_of_unconstrained ?_ ?_ unconstrained⟩
      · rw [sameMethod]
        exact permits.method
      · rw [sameMethod, sameTool]
        exact permits.target_eq

end

/-- What is read of a grant to call one tool. -/
def readUnder (constraint : Option Value) (signature : String) : ReferenceGrant where
  issuer := "did:example:authority-1"
  grantee := "did:example:agent-1"
  subject := "did:example:user-1"
  audience := "did:example:server-1"
  grants := [⟨"tools/call", "echo", constraint⟩]
  notBefore := "2026-05-28T20:00:00Z"
  expiresAt := "2026-05-28T21:00:00Z"
  revocationId := "rev-1"
  signature := ⟨"Ed25519", "authority-key-1", signature⟩

/-- A constraint that is a text authorizes nothing. -/
theorem authorizesNothing_text :
    let artifact := grantUnder referenceProfileId [("arguments", .string "any")]
      [("value", .string "signature")]
    NonObjectConstraint artifact (readUnder (some (.string "any")) "signature") 0
        ⟨"tools/call", "echo", some (.string "any")⟩ (.string "any") ∧
      AuthorizesNothing artifact 0 := by
  intro artifact
  have states : NonObjectConstraint artifact (readUnder (some (.string "any")) "signature") 0
      ⟨"tools/call", "echo", some (.string "any")⟩ (.string "any") :=
    ⟨⟨_, rfl⟩, rfl, ⟨_, _, rfl, rfl, rfl, rfl⟩, rfl⟩
  exact ⟨states, (authorizesNothing_iff _ _ _ _ _ states).mpr (.inl nofun)⟩

def nullSignature : String :=
  "0NBT40edgG__VWE7uc63c6iAT2-Xmc93MQM-5FJGupgBxmKlLsaFoQaxe5w1iGxl3pOVfthpKM9Ex-s089nNAA"

/-- A signed grant whose constraint is null. -/
def nullGrant : Value :=
  grantUnder referenceProfileId [("arguments", .null)] [("value", .string nullSignature)]

/-- Crates that know the issuer's signature of that grant. -/
@[reducible] def nullCrates : Crates :=
  referenceCrates "" [⟨issuerKey,
    bytesOf (grantUnder referenceProfileId [("arguments", .null)] []), nullSignature⟩] []

/-- A null constraint allows a call of its tool with any arguments. -/
theorem null_authorizes :
    letI := nullCrates
    NonObjectConstraint nullGrant (readUnder none nullSignature) 0 ⟨"tools/call", "echo", none⟩
        .null ∧
      ReferenceProfile.authorize (bytesOf nullGrant) (opaqueRequest "") (echoCall []) issuerResolver
        (inMemoryRevocationSource []) 1780000200 = .allow ∧
      scopeDecision (withoutGrant 0 nullGrant) (echoCall []) =
        some (.error .authorizationScopeDenied) := by
  let crates := nullCrates
  refine ⟨⟨⟨_, rfl⟩, rfl, ⟨_, _, rfl, rfl, rfl, rfl⟩, rfl⟩, ?_⟩
  decide +kernel

/-! ## The profile of an artifact -/

/-- The request with an authorization block in its parameters. -/
def carrying (label text : String) : Value → Value :=
  Json.updateMember "params" (Json.insertMember "_meta" (.object [(authorizationMetaKey, .object
    [("artifact", .string text), ("profile", .string label)])]))

theorem get_params_carrying {label text key : String} (other : key ≠ "_meta") :
    ((carrying label text request).get "params").bind (get key) =
      (request.get "params").bind (get key) := by
  rw [carrying, get_updateMember_self]
  cases request.get "params" with
  | none => rfl
  | some params =>
    cases params with
    | object members => exact Assoc.find?_insert_ne _ other _ _
    | _ => rfl

theorem permits_carrying (permits : operation.Permits request) (label text : String) :
    operation.Permits (carrying label text request) := by
  constructor
  · rw [carrying, get_updateMember_ne (by decide)]
    exact permits.method
  · rw [get_params_carrying (by decide), get_params_carrying (by decide)]
    exact permits.target
  · rw [get_params_carrying (by decide)]
    exact permits.arguments

theorem Grant.Permits.params_object (permits : operation.Permits request) :
    ∃ members, request.get "params" = some (.object members) := by
  obtain ⟨_, _, named⟩ := bind_eq_some_iff.mp permits.target_eq
  obtain ⟨_, held, _⟩ := bind_eq_some_iff.mp named
  obtain ⟨_, present, found⟩ := bind_eq_some_iff.mp held
  obtain ⟨members, rfl, _⟩ := get_eq_some found
  exact ⟨members, present⟩

section

variable [Crates]

theorem carries_carrying {request : Value} {label text : String} {artifactBytes : Bytes}
    {members : List (String × Value)} (params : request.get "params" = some (.object members))
    (decoded : Crates.b64urlDecode text = some artifactBytes) :
    Carries (carrying label text request) label artifactBytes := by
  refine ⟨[("artifact", .string text), ("profile", .string label)], text, ?_, rfl, rfl, decoded⟩
  rw [carrying, get_updateMember_self, params, map_some, bind_some, insertMember, get_insert_self]
  rfl

/-- Whatever the evaluator and the request, an artifact that is allowed through the reference
profile was issued for that profile. -/
def HonoursProfile (resolver : TrustResolver) : Prop :=
  ∀ (evaluator : PolicyEvaluator) (verified : VerifiedRequest) (request : Value)
    (revocation : RevocationSource) (now : Int) (label : String) (artifactBytes canonical : Bytes)
    (value : MapValue),
    evaluator.profiles.get? label = some referenceProfile →
    (bindingCheck verified.authorization).isSome →
    Carries request label artifactBytes →
    canonicalize artifactBytes = .ok canonical → Crates.fromSlice canonical = some value →
    evaluator.evaluate verified request resolver revocation now = .allow →
    value.val.get "profile" = some (.string referenceProfileId)

omit [Crates] in
/-- A grant that covers some request at some time. -/
structure ReferenceGrant.Usable (grant : ReferenceGrant) : Prop where
  window : ∃ now, grant.OpenAt now
  targeted : ∀ operation ∈ grant.grants, operation.tool ≠ ""
  permitted : ∃ request, ∃ operation ∈ grant.grants, operation.Permits request

/-- An artifact that reads as a usable grant and that an issuer known to the resolver signed. -/
structure Artifact.IssuedTo (artifact : Artifact) (resolver : TrustResolver) : Prop where
  canonicalized : canonicalize artifact.bytes = .ok artifact.canonical
  parsed : Crates.fromSlice artifact.canonical = some artifact.value
  deserialized : readReferenceGrant artifact.value.val = some artifact.grant
  signed : IssuerSigned artifact.value.val artifact.grant resolver
  usable : artifact.grant.Usable

theorem Artifact.Authorizes.issuedTo {artifact : Artifact} {verified : VerifiedRequest}
    {request : Value} {resolver : TrustResolver} {revocation : RevocationSource} {now : Int}
    (authorizes : artifact.Authorizes verified request resolver revocation now) :
    artifact.IssuedTo resolver :=
  ⟨authorizes.canonicalized, authorizes.parsed, authorizes.deserialized, authorizes.signed,
    ⟨now, authorizes.covers.window⟩, authorizes.covers.targeted, request,
    authorizes.covers.permitted⟩

/-- A verified request to whom and for what a grant was issued. -/
def granteeRequest (grant : ReferenceGrant) (authorizationHash : String) : VerifiedRequest where
  verifiedSigner := grant.grantee
  keyId := ""
  onBehalfOf := grant.subject
  audience := grant.audience
  authorization := .draft01Hash authorizationHash
  nonce := ""
  issuedAt := ""
  expiresAt := ""
  canonicalizationId := none
  requestHash := ""

/-- The profile an artifact names does not enter the decision.  Only artifacts issued for the
reference profile are honoured exactly if the known issuers sign no others that read as usable
grants. -/
theorem honoursProfile_iff
    (decodes : ∀ bytes, Crates.b64urlDecode (Crates.b64urlEncode bytes) = some bytes)
    (resolver : TrustResolver) :
    HonoursProfile resolver ↔ ∀ artifact : Artifact, artifact.IssuedTo resolver →
      artifact.value.val.get "profile" = some (.string referenceProfileId) := by
  constructor
  · intro honours artifact issued
    rcases issued.usable with ⟨⟨now, isOpen⟩, targeted, request, operation, granted, permits⟩
    rcases permits.params_object with ⟨members, params⟩
    let verified := granteeRequest artifact.grant (sha256HashId artifact.canonical)
    let call := carrying referenceProfileId (Crates.b64urlEncode artifact.bytes) request
    have carries : Carries call referenceProfileId artifact.bytes :=
      carries_carrying params (decodes artifact.bytes)
    have authorizes : artifact.Authorizes verified call resolver (inMemoryRevocationSource []) now :=
      ⟨issued.canonicalized, issued.parsed, issued.deserialized, issued.signed,
        rfl, rfl, rfl, isOpen, rfl, targeted, operation, granted, permits_carrying permits _ _⟩
    have allowed : referenceEvaluator.evaluate verified call resolver
        (inMemoryRevocationSource []) now = .allow := by
      rcases @evaluate_of_carries _ _ verified call resolver (inMemoryRevocationSource []) now _ _
        _ _ registered_referenceEvaluator rfl carries issued.canonicalized with
        ⟨_, same⟩ | ⟨unbound, _⟩
      · rw [same]
        exact ReferenceProfile.authorize_eq_allow.mpr ⟨artifact, rfl, authorizes⟩
      · exact absurd rfl unbound
    exact honours _ verified call _ now _ _ _ _ registered_referenceEvaluator rfl carries
      issued.canonicalized issued.parsed allowed
  · intro onlyOwn evaluator verified request revocation now label artifactBytes canonical value
      registered bound carries canonicalized parsed allowed
    rcases Option.isSome_iff_exists.mp bound with ⟨checkBinding, selected⟩
    rcases @evaluate_of_carries _ _ verified request resolver revocation now _ _ _ _ registered
      selected carries canonicalized with ⟨_, same⟩ | ⟨_, denied⟩
    · rw [same] at allowed
      rcases ReferenceProfile.authorize_eq_allow.mp allowed with ⟨artifact, rfl, authorizes⟩
      cases canonicalized.symm.trans authorizes.canonicalized
      cases parsed.symm.trans authorizes.parsed
      exact onlyOwn artifact authorizes.issuedTo
    · rw [denied] at allowed
      cases allowed

end

def otherSignature : String :=
  "yXOpJr7vcveCcjOO3lRZXdDEz66D1ZRHS4-vkwcydeu5oS7qXRUD_Rui54DScqb0I4NK-Hp878kr-LzRR9FGBQ"

/-- The bytes of a grant that the issuer signed for another profile. -/
def otherGrantBytes : Bytes :=
  bytesOf (grantUnder "example.org/other-profile-v1" [] [("value", .string otherSignature)])

def otherDigest : String := "wRlfrJoO5ar6U7mz1zJFrKe0vgVAGm9jVPp0HvXUIaE"

/-- Crates that know the issuer's signature of that grant, and its digest. -/
@[reducible] def otherCrates : Crates :=
  referenceCrates otherDigest [⟨issuerKey,
    bytesOf (grantUnder "example.org/other-profile-v1" [] []), otherSignature⟩] []

theorem authorize_otherGrant :
    letI := otherCrates
    canonicalize otherGrantBytes = .ok otherGrantBytes ∧
      ReferenceProfile.authorize otherGrantBytes (opaqueRequest otherDigest)
        (echoCall otherGrantBytes) issuerResolver (inMemoryRevocationSource []) 1780000200 =
        .allow ∧
      (Crates.fromSlice otherGrantBytes).bind (·.val.get "profile") =
        some (.string "example.org/other-profile-v1") := by
  decide +kernel

/-- The issuer that signed such a grant is not honoured for its own profile alone. -/
theorem not_honoursProfile_issuer :
    letI := otherCrates
    ¬ HonoursProfile issuerResolver := by
  let crates := otherCrates
  obtain ⟨canonicalized, authorized, profile⟩ := authorize_otherGrant
  intro honours
  obtain ⟨artifact, same, authorizes⟩ := ReferenceProfile.authorize_eq_allow.mp authorized
  have own := (honoursProfile_iff b64urlDecodeText_b64urlEncodeBytes issuerResolver).mp honours
    artifact authorizes.issuedTo
  have canonical := authorizes.canonicalized
  rw [same, canonicalized] at canonical
  rw [Except.ok.inj canonical, authorizes.parsed, bind_some, own] at profile
  revert profile
  decide

/-- A grant for another profile is allowed in a block that labels it a reference grant. -/
theorem evaluate_allows_otherProfile :
    letI := otherCrates
    referenceEvaluator.evaluate (opaqueRequest otherDigest) (echoCall otherGrantBytes)
        issuerResolver (inMemoryRevocationSource []) 1780000200 = .allow ∧
      (Crates.fromSlice otherGrantBytes).bind (·.val.get "profile") =
        some (.string "example.org/other-profile-v1") := by
  let crates := otherCrates
  obtain ⟨canonicalized, authorized, profile⟩ := authorize_otherGrant
  have carries : Carries (echoCall otherGrantBytes) referenceProfileId otherGrantBytes :=
    ⟨_, _, rfl, rfl, rfl, b64urlDecodeText_b64urlEncodeBytes otherGrantBytes⟩
  refine ⟨?_, profile⟩
  rcases @evaluate_of_carries _ _ (opaqueRequest otherDigest) _ issuerResolver
    (inMemoryRevocationSource []) 1780000200 _ _ _ _ registered_referenceEvaluator rfl carries
    canonicalized with ⟨_, same⟩ | ⟨unbound, _⟩
  · exact same.trans authorized
  · have bound : otherDigest = Crates.b64urlEncode (Crates.sha256 otherGrantBytes) := by
      decide +kernel
    exact absurd bound unbound

end Mcps.Policy
