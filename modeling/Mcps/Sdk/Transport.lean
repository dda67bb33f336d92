import Mcps.ClientCore.Correlation
import Mcps.ClientCore.Request
import Mcps.ClientCore.Response
import Mcps.Sdk.Python

/-!
# The transport adapter of the Python SDK

`signOutbound` signs a request of the session and registers it for correlation;
`verifyInbound` correlates and verifies one inbound line and strips the envelope from
what it delivers.  Both end in a value or an exception, with the correlation store they
leave behind.
-/

namespace Mcps.Sdk

open ClientCore

/-- The source of authorization bindings: a provider, which may raise; a prebuilt binding
is a provider that ignores its context. -/
abbrev BindingProvider := BindingRequestContext → Except PyException AuthorizationBinding

/-- The policy and the identity of a connection. -/
structure McpsConfig where
  signer : ClientSigner
  policy : SignerPolicy
  resolver : TrustResolver
  audience : String
  onBehalfOf : String
  authorization : Option BindingProvider
  authorizationPolicy : Option AuthorizationBindingPolicy
  bindingDigestAlg : String
  bindingDigestValue : String
  expectedServerSigner : Option String
  enforcementMode : String
  legacyAllowed : Bool
  routeId : String
  allowUnverifiedServerInitiated : Bool

/-- A message of the session, as the JSON object it is. -/
structure SessionMessage where
  root : PyValue
  deriving DecidableEq

/-- The result of verifying one inbound line. -/
inductive InboundOutcome where
  | accept (message : SessionMessage)
  | passthrough (message : SessionMessage)
  | reject (reason : String)
  deriving DecidableEq

def parseMode : String → Except PyException EnforcementMode
  | "require_mcps" => .ok .requireMcps
  | "allow_legacy_explicit" => .ok .allowLegacyExplicit
  | _ => .error .valueError

/-- Resolve the authorization binding of a request; the policy is only asked about a
provider's binding. -/
def resolveBinding (config : McpsConfig) (method : String) (params : Option PyValue)
    (deadlineUnix : Int) : Except PyException AuthorizationBinding :=
  match config.authorization with
  | none => .ok (.opaqueBytes config.bindingDigestAlg config.bindingDigestValue)
  | some provide => do
    let toolId := if method = "tools/call" then
      (params.bind (Json.get "name")).bind Json.asStr else none
    let binding ← provide
      ⟨config.audience, config.routeId, some method, toolId, deadlineUnix⟩
    if config.authorizationPolicy.any fun policy => !policy.permits (bindingTag binding) then
      throw .valueError
    return binding

/-- Remove the envelope from a result's `_meta`, and a `_meta` it was alone in. -/
def stripResult {ν : Type} : Json ν → Json ν
  | .object members =>
    match Assoc.find? "_meta" members with
    | some (.object metaMembers) =>
      let rest := Assoc.erase responseMetaKey metaMembers
      if rest.isEmpty then .object (Assoc.erase "_meta" members)
      else (Json.object members).updateMember "_meta" fun _ => .object rest
    | _ => .object members
  | other => other

def stripEnvelope (obj : PyValue) : PyValue := obj.updateMember "result" stripResult

section

variable [Crates] [Python]

/-- A request of the session: its id, method and parameters. -/
structure OutboundRequest where
  id : PyValue
  method : String
  params : Option PyValue

/-- The request a message is, if it has an id and a method. -/
def requestFields (message : SessionMessage) : Option OutboundRequest := do
  let id ← message.root.get "id"
  let method ← (message.root.get "method").bind Json.asStr
  if id = .null then none else return ⟨id, method, message.root.get "params"⟩

/-- `params or {}`. -/
def paramsOrEmpty : Option PyValue → PyValue
  | none | some .null | some (.object []) => .object []
  | some params => params

/-- Sign a request with the configured signer. -/
def signRequest (config : McpsConfig) (request : OutboundRequest) (nowUnix : Int)
    (nonce : String) (expiresUnix : Int) : Except PyException SignedRequest := do
  let issuedAt ← rfc3339 nowUnix
  let expiresAt ← rfc3339 expiresUnix
  let binding ← resolveBinding config request.method request.params expiresUnix
  let id ← (Crates.fromSlice (Python.dumps request.id)).okOr .valueError
  let params ← ((Crates.fromSlice (Python.dumps (paramsOrEmpty request.params))).bind
    fun value => value.val.asObject).okOr .valueError
  let inputs : RequestSigningInputs := {
    signer := config.signer.signerId
    keyId := config.signer.keyId
    onBehalfOf := config.onBehalfOf
    audience := config.audience
    authorizationBinding := binding
    nonce, issuedAt, expiresAt
    canonicalizationId := canonicalizationIdInt53V1 }
  (buildSignedRequestWithSigner id.val request.method params inputs config.signer
    config.policy).mapError fun _ => .valueError

/-- What is remembered of a signed request. -/
def pendingRequest (config : McpsConfig) (request : OutboundRequest) (signed : SignedRequest)
    (nonce : String) (expiresUnix : Int) : PendingRequest where
  correlationId := str request.id
  requestHash := signed.requestHash
  nonce := nonce
  issuedAtUnix := 0
  deadlineUnix := expiresUnix
  routeId := config.routeId
  audience := config.audience
  expectedServerSigners := (config.expectedServerSigner.filter fun signer => !signer.isEmpty).toList
  version := versionDraft02
  canonicalizationId := canonicalizationIdInt53V1
  authzDigest := ""

/-- Sign and register an outbound request; any other message goes out as it is. -/
def signOutbound (config : McpsConfig) (correlation : CorrelationStore)
    (message : SessionMessage) (nowUnix : Int) (nonce : String) (expiresUnix : Int) :
    Except PyException Bytes × CorrelationStore :=
  match requestFields message with
  | none => (.ok (Python.dumpMessage message.root), correlation)
  | some request =>
    match signRequest config request nowUnix nonce expiresUnix with
    | .error exception => (.error exception, correlation)
    | .ok signed =>
      match correlation.register
          (pendingRequest config request signed nonce expiresUnix) nowUnix with
      | (.error _, correlation) => (.error .valueError, correlation)
      | (.ok (), correlation) => (.ok signed.wireBytes, correlation)

/-- The evidence of a response to a request with the given hash. -/
def responseEvidence (config : McpsConfig) (requestHash : String) (line : Bytes) :
    Except McpsError VerifiedResponse :=
  verifySignedResponse line config.resolver
    ⟨requestHash, canonicalizationIdInt53V1, config.expectedServerSigner⟩

/-- The enforcement decision on a response. -/
def verifyResponse (config : McpsConfig) (requestHash : String) (line : Bytes) :
    Except PyException EnforcementDecision := do
  let mode ← parseMode config.enforcementMode
  return decide mode config.legacyAllowed
    (classifyResponseResult (responseEvidence config requestHash line))

/-- Validate an object as a message of the session. -/
def sessionMessage (obj : PyValue) : Except PyException SessionMessage := do
  Python.validateMessage obj
  return ⟨obj⟩

/-- Verify a correlated response and deliver it. -/
def deliver (config : McpsConfig) (entry : PendingRequest) (line : Bytes) (obj : PyValue) :
    Except PyException InboundOutcome := do
  match ← verifyResponse config entry.requestHash line with
  | .acceptMcps => return .accept (← sessionMessage (stripEnvelope obj))
  | .fallBackToLegacy _ => return .accept (← sessionMessage obj)
  | .failClosed error => return .reject error.wireCode

/-- A message the server sent on its own account. -/
def serverInitiated (config : McpsConfig) (obj rid : PyValue) :
    Except PyException InboundOutcome :=
  if config.allowUnverifiedServerInitiated then do
    return .passthrough (← sessionMessage obj)
  else if rid = .null then .ok (.reject "mcps.notification_forbidden")
  else .ok (.reject "mcps.missing_envelope")

/-- Take the request a response is for out of the store, then verify the response. -/
def handleResponse (config : McpsConfig) (correlation : CorrelationStore) (line : Bytes)
    (obj : PyValue) (correlationId : String) (nowUnix : Int) :
    Except PyException InboundOutcome × CorrelationStore :=
  match correlation.takeForResponse correlationId nowUnix with
  | (.error error, correlation) => (.ok (.reject error.toMcpsError.wireCode), correlation)
  | (.ok entry, correlation) => (deliver config entry line obj, correlation)

/-- Correlate and verify one inbound line. -/
def verifyInbound (config : McpsConfig) (correlation : CorrelationStore) (line : Bytes)
    (nowUnix : Int) : Except PyException InboundOutcome × CorrelationStore :=
  match (loads line).bind dictMembers with
  | .error exception => (.error exception, correlation)
  | .ok members =>
    let rid := (Assoc.find? "id" members).getD .null
    if (Assoc.find? "method" members).isSome then
      (serverInitiated config (.object members) rid, correlation)
    else if rid = .null then (.ok (.reject "mcps.missing_envelope"), correlation)
    else handleResponse config correlation line (.object members) (str rid) nowUnix

/-! ## Responses and the correlation store -/

theorem pending_handleResponse (config : McpsConfig) (correlation : CorrelationStore)
    (line : Bytes) (obj : PyValue) (correlationId : String) (nowUnix : Int) :
    (handleResponse config correlation line obj correlationId nowUnix).2.pending =
      Assoc.erase correlationId correlation.pending := by
  refine Eq.trans ?_ (congrArg CorrelationStore.pending
    (correlation.takeForResponse_snd correlationId nowUnix))
  unfold handleResponse
  split
  next rest taken => rw [taken]
  next rest taken => rw [taken]

variable {config : McpsConfig} {correlation : CorrelationStore} {line : Bytes}
  {message : SessionMessage}

theorem handleResponse_eq_accept {obj : PyValue} {correlationId : String} {nowUnix : Int} :
    (handleResponse config correlation line obj correlationId nowUnix).1 = .ok (.accept message) ↔
      ∃ entry, (Assoc.find? correlationId correlation.pending = some entry ∧
        nowUnix ≤ entry.deadlineUnix) ∧ deliver config entry line obj = .ok (.accept message) := by
  simp only [← CorrelationStore.takeForResponse_eq_ok]
  unfold handleResponse
  split
  next rest taken => simp [taken]
  next rest taken => simp [taken]

/-- A response raises where the mode is unknown or the session takes no such message, and is
rejected or accepted otherwise. -/
theorem deliver_cases (config : McpsConfig) (entry : PendingRequest) (line : Bytes)
    (obj : PyValue) :
    (∃ exception, deliver config entry line obj = .error exception ∧
        (exception = .valueError ∨ ∃ value, Python.validateMessage value = .error exception)) ∨
      (∃ reason, deliver config entry line obj = .ok (.reject reason)) ∨
      ((∃ verified, responseEvidence config entry.requestHash line = .ok verified) ∧
        deliver config entry line obj = .ok (.accept ⟨stripEnvelope obj⟩)) ∨
      (responseEvidence config entry.requestHash line = .error .missingEnvelope ∧
        deliver config entry line obj = .ok (.accept ⟨obj⟩)) := by
  have valid : ∀ value, (∃ exception, sessionMessage value = .error exception ∧
      Python.validateMessage value = .error exception) ∨ sessionMessage value = .ok ⟨value⟩ := by
    intro value
    unfold sessionMessage
    cases Python.validateMessage value with
    | error exception => exact .inl ⟨exception, rfl, rfl⟩
    | ok _ => exact .inr rfl
  unfold deliver verifyResponse
  cases parsed : parseMode config.enforcementMode with
  | error exception =>
    refine .inl ⟨exception, rfl, .inl ?_⟩
    unfold parseMode at parsed
    split at parsed <;> cases parsed
    rfl
  | ok mode =>
    simp only [Except.bind_ok, Except.pure_eq_ok]
    split
    next accepts =>
      rcases valid (stripEnvelope obj) with ⟨exception, made, raised⟩ | made
      · exact .inl ⟨exception, by rw [made]; rfl, .inr ⟨_, raised⟩⟩
      · exact .inr (.inr (.inl ⟨decide_classifyResponseResult_eq_acceptMcps.mp accepts,
          by rw [made]; rfl⟩))
    next falls =>
      rcases valid obj with ⟨exception, made, raised⟩ | made
      · exact .inl ⟨exception, by rw [made]; rfl, .inr ⟨_, raised⟩⟩
      · exact .inr (.inr (.inr ⟨eq_missingEnvelope_of_fallBackToLegacy falls, by rw [made]; rfl⟩))
    next => exact .inr (.inl ⟨_, rfl⟩)

theorem deliver_eq_accept {entry : PendingRequest} {obj : PyValue}
    (accepted : deliver config entry line obj = .ok (.accept message)) :
    ((∃ verified, responseEvidence config entry.requestHash line = .ok verified) ∧
        message = ⟨stripEnvelope obj⟩) ∨
      (responseEvidence config entry.requestHash line = .error .missingEnvelope ∧
        message = ⟨obj⟩) := by
  rcases deliver_cases config entry line obj with
    ⟨_, made, _⟩ | ⟨_, made⟩ | ⟨verified, made⟩ | ⟨absent, made⟩
  all_goals
    rw [made] at accepted
    cases accepted
  · exact .inl ⟨verified, rfl⟩
  · exact .inr ⟨absent, rfl⟩

/-- A line that is not an object raises; one with a method is the server's own message; a
response without an id is rejected, and any other answers the request it names. -/
theorem verifyInbound_cases (config : McpsConfig) (correlation : CorrelationStore) (line : Bytes)
    (nowUnix : Int) :
    (∃ exception, (loads line).bind dictMembers = .error exception ∧
      verifyInbound config correlation line nowUnix = (.error exception, correlation)) ∨
    ∃ members, (loads line).bind dictMembers = .ok members ∧
      ((Assoc.find? "method" members).isSome ∧
          verifyInbound config correlation line nowUnix =
            (serverInitiated config (.object members) ((Assoc.find? "id" members).getD .null),
              correlation) ∨
        Assoc.find? "method" members = none ∧
          (verifyInbound config correlation line nowUnix =
              (.ok (.reject "mcps.missing_envelope"), correlation) ∨
            ∃ id, Assoc.find? "id" members = some id ∧ id ≠ .null ∧
              verifyInbound config correlation line nowUnix =
                handleResponse config correlation line (.object members) (str id) nowUnix)) := by
  unfold verifyInbound
  split
  next exception raised => exact .inl ⟨exception, raised, rfl⟩
  next members read =>
    refine .inr ⟨members, read, ?_⟩
    dsimp only
    split
    next asks => exact .inl ⟨asks, rfl⟩
    next answers =>
      refine .inr ⟨Option.not_isSome_iff_eq_none.mp answers, ?_⟩
      split
      next => exact .inl rfl
      next named =>
        cases held : Assoc.find? "id" members with
        | none => simp [held] at named
        | some id =>
          rw [held] at named
          exact .inr ⟨id, rfl, named, rfl⟩

omit [Crates] in
theorem serverInitiated_cases (config : McpsConfig) (obj rid : PyValue) :
    (config.allowUnverifiedServerInitiated = true ∧ serverInitiated config obj rid =
      (Python.validateMessage obj).map fun _ => .passthrough ⟨obj⟩) ∨
    config.allowUnverifiedServerInitiated = false ∧
      ∃ reason, serverInitiated config obj rid = .ok (.reject reason) := by
  unfold serverInitiated
  split
  next allowed =>
    refine .inl ⟨allowed, ?_⟩
    cases valid : Python.validateMessage obj <;> simp [sessionMessage, valid, Except.map]
  next closed =>
    refine .inr ⟨Bool.eq_false_of_not_eq_true closed, ?_⟩
    split
    next => exact ⟨_, rfl⟩
    next => exact ⟨_, rfl⟩

/-- An accepted line is an object that answers an outstanding request in time. -/
theorem verifyInbound_eq_ok {nowUnix : Int} {outcome : InboundOutcome}
    (made : (verifyInbound config correlation line nowUnix).1 = .ok outcome) :
    (∃ reason, outcome = .reject reason) ∨
    (config.allowUnverifiedServerInitiated = true ∧ ∃ message, outcome = .passthrough message) ∨
    ∃ message members id entry, outcome = .accept message ∧
      (loads line).bind dictMembers = .ok members ∧ Assoc.find? "id" members = some id ∧
      (Assoc.find? (str id) correlation.pending = some entry ∧ nowUnix ≤ entry.deadlineUnix) ∧
      deliver config entry line (.object members) = .ok (.accept message) := by
  rcases verifyInbound_cases config correlation line nowUnix with
    ⟨_, _, same⟩ | ⟨members, read, ⟨_, same⟩ | ⟨_, same | ⟨id, named, _, same⟩⟩⟩
  all_goals rw [same] at made
  · cases made
  · rcases serverInitiated_cases config (.object members) ((Assoc.find? "id" members).getD .null)
      with ⟨allowed, handled⟩ | ⟨_, reason, handled⟩
    · rw [handled] at made
      obtain ⟨_, _, rfl⟩ := Except.map_eq_ok.mp made
      exact .inr (.inl ⟨allowed, _, rfl⟩)
    · exact .inl ⟨reason, (Except.ok.inj (handled.symm.trans made)).symm⟩
  · exact .inl ⟨_, (Except.ok.inj made).symm⟩
  · unfold handleResponse at made
    split at made
    next => exact .inl ⟨_, (Except.ok.inj made).symm⟩
    next entry _ taken =>
      have held := CorrelationStore.takeForResponse_eq_ok.mp (congrArg Prod.fst taken)
      rcases deliver_cases config entry line (.object members) with
        ⟨_, delivered, _⟩ | ⟨reason, delivered⟩ | ⟨_, delivered⟩ | ⟨_, delivered⟩
      · cases delivered.symm.trans made
      · exact .inl ⟨reason, (Except.ok.inj (delivered.symm.trans made)).symm⟩
      all_goals
        cases delivered.symm.trans made
        exact .inr (.inr ⟨_, members, id, entry, rfl, read, named, held, delivered⟩)

theorem deliver_of_verified {config : McpsConfig} {entry : PendingRequest} {line : Bytes}
    {verified : VerifiedResponse}
    (verifies : responseEvidence config entry.requestHash line = .ok verified) (obj : PyValue) :
    (∃ message, deliver config entry line obj = .ok (.accept message)) ↔
      (∃ mode, parseMode config.enforcementMode = .ok mode) ∧
        Python.validateMessage (stripEnvelope obj) = .ok () := by
  unfold deliver verifyResponse
  rw [verifies]
  cases parseMode config.enforcementMode with
  | error exception => simp
  | ok mode =>
    simp only [classifyResponseResult, ClientCore.decide, sessionMessage]
    cases Python.validateMessage (stripEnvelope obj) with
    | error _ | ok _ => simp

end

end Mcps.Sdk
