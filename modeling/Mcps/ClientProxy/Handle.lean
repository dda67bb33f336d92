import Mcps.ClientCore.Correlation
import Mcps.ClientCore.Request
import Mcps.ClientCore.Response

/-!
# The local client-side proxy

The local client speaks plain MCP to this proxy.  A request is signed for its route,
registered in the correlation store and sent; the response is verified, correlated and
judged by the route's enforcement mode, and what the client gets back is plain MCP again.

The handler reports its outcome together with the correlation store and the bytes it
handed to the transport.
-/

namespace Mcps

open ClientCore

/-! ## Routes and calls -/

structure Route where
  routeId : String
  enforcementMode : EnforcementMode
  legacyAllowed : Bool
  signerAudience : SignerAudienceBinding
  authzPolicy : AuthorizationBindingPolicy
  authzProvider : AuthorizationBindingProvider

/-- The configured routes by their ids. -/
structure RouteRegistry where
  routes : List (String × Route)

def RouteRegistry.register (registry : RouteRegistry) (route : Route) : RouteRegistry :=
  ⟨(route.routeId, route) :: Assoc.erase route.routeId registry.routes⟩

def RouteRegistry.get (registry : RouteRegistry) (routeId : String) : Option Route :=
  Assoc.find? routeId registry.routes

/-- A failure of the remote leg before any evidence. -/
structure TransportError where
  detail : String
  deriving DecidableEq, Repr

inductive ProxyError where
  | unknownRoute (routeId : String)
  | malformedRequest
  | transport (error : TransportError)
  | failedClosed (error : McpsError)
  deriving DecidableEq, Repr

/-- What the calling layer supplies for one call. -/
structure CallParams where
  onBehalfOf : String
  nonce : String
  issuedAt : String
  expiresAt : String
  nowUnix : Int
  deadlineUnix : Int

structure ProxyResponse where
  plainResponse : Value
  audit : ClientAuditEvent
  path : ClientPath
  deriving DecidableEq

/-- A client proxy; the transport answers bytes with bytes, or fails. -/
structure ClientProxy where
  registry : RouteRegistry
  signer : ClientSigner
  signerPolicy : SignerPolicy
  trustResolver : TrustResolver
  transport : Bytes → Except TransportError Bytes

namespace ClientProxy

/-- The end of a call. -/
structure Handled where
  outcome : Except ProxyError ProxyResponse
  correlation : CorrelationStore
  sent : Option Bytes

/-- A signed request, with what is needed to judge its response. -/
structure Exchange where
  route : Route
  id : Value
  signed : SignedRequest
  pending : PendingRequest

variable [Crates]

/-- Sign a plain request for a route. -/
def sign (proxy : ClientProxy) (routeId : String) (plainRequest : Value) (params : CallParams) :
    Except ProxyError Exchange := do
  let route ← (proxy.registry.get routeId).okOr (.unknownRoute routeId)
  let id := (plainRequest.get "id").getD .null
  let method ← ((plainRequest.get "method").bind Json.asStr).okOr .malformedRequest
  let reqParams := ((plainRequest.get "params").bind Json.asObject).getD []
  let toolId := (Assoc.find? "name" reqParams).bind Json.asStr
  let audience := route.signerAudience.audienceString
  let context : BindingRequestContext :=
    ⟨audience, routeId, some method, toolId, params.deadlineUnix⟩
  let binding ← (resolveAuthorizationBinding route.authzProvider route.authzPolicy
    context).mapError .failedClosed
  let inputs : RequestSigningInputs := {
    signer := proxy.signer.signerId
    keyId := proxy.signer.keyId
    onBehalfOf := params.onBehalfOf
    audience
    authorizationBinding := binding
    nonce := params.nonce
    issuedAt := params.issuedAt
    expiresAt := params.expiresAt
    canonicalizationId := canonicalizationIdInt53V1 }
  let signed ← (buildSignedRequestWithSigner id method reqParams inputs proxy.signer
    proxy.signerPolicy).mapError .failedClosed
  return {
    route, id, signed
    pending := {
      correlationId := Crates.valueToString id
      requestHash := signed.requestHash
      nonce := params.nonce
      issuedAtUnix := params.nowUnix
      deadlineUnix := params.deadlineUnix
      routeId
      audience
      expectedServerSigners := [route.signerAudience.expectedServerSigner]
      version := versionDraft02
      canonicalizationId := canonicalizationIdInt53V1
      authzDigest := bindingDigest binding } }

/-- What a transport failure is reported as. -/
def transportFailure (route : Route) (failure : TransportError) : ProxyError :=
  match decide route.enforcementMode route.legacyAllowed
      (.absent .transportFailurePreEvidence) with
  | .failClosed error => .failedClosed error
  | _ => .transport failure

/-- Verify a response against the request it should answer. -/
def evidence (proxy : ClientProxy) (exchange : Exchange) (responseBytes : Bytes) :
    Except McpsError VerifiedResponse :=
  verifySignedResponse responseBytes proxy.trustResolver
    ⟨exchange.signed.requestHash, canonicalizationIdInt53V1,
      some exchange.route.signerAudience.expectedServerSigner⟩

/-- Rebuild a plain response from a verified one. -/
def plainResponseFromVerified (id : Value) (responseBytes : Bytes) : Except ProxyError Value := do
  let object ← (Crates.fromSlice responseBytes).okOr (.failedClosed .canonicalizationFailed)
  let result ← (object.val.get "result").okOr (.failedClosed .canonicalizationFailed)
  let unwrapped ← (unwrapVerifiedResult result).mapError .failedClosed
  return .object [("id", id), ("jsonrpc", .string "2.0"), ("result", unwrapped.intoValue)]

/-- Answer the local client as the route's enforcement mode decides. -/
def conclude (proxy : ClientProxy) (exchange : Exchange) (responseBytes : Bytes) :
    Except ProxyError ProxyResponse :=
  let decision := decide exchange.route.enforcementMode exchange.route.legacyAllowed
    (classifyResponseResult (proxy.evidence exchange responseBytes))
  match decision with
  | .acceptMcps => do
    let plain ← plainResponseFromVerified exchange.id responseBytes
    return ⟨plain, auditForDecision decision, .mcpsVerified⟩
  | .fallBackToLegacy _ => do
    let plain ← (Crates.fromSlice responseBytes).okOr .malformedRequest
    return ⟨plain.val, auditForDecision decision, .legacyExplicit⟩
  | .failClosed error => .error (.failedClosed error)

/-- Handle one plain request of the local client. -/
def handle (proxy : ClientProxy) (correlation : CorrelationStore) (routeId : String)
    (plainRequest : Value) (params : CallParams) : Handled :=
  match proxy.sign routeId plainRequest params with
  | .error error => ⟨.error error, correlation, none⟩
  | .ok exchange =>
    match correlation.register exchange.pending params.nowUnix with
    | (.error error, correlation) =>
      ⟨.error (.failedClosed error.toMcpsError), correlation, none⟩
    | (.ok (), correlation) =>
      let sent := some exchange.signed.wireBytes
      match proxy.transport exchange.signed.wireBytes with
      | .error failure =>
        ⟨.error (transportFailure exchange.route failure),
          (correlation.cancel exchange.pending.correlationId).2, sent⟩
      | .ok responseBytes =>
        match correlation.takeForResponse exchange.pending.correlationId
            params.nowUnix with
        | (.error error, correlation) =>
          ⟨.error (.failedClosed error.toMcpsError), correlation, sent⟩
        | (.ok _, correlation) =>
          ⟨proxy.conclude exchange responseBytes, correlation, sent⟩

/-! ## What a call does -/

section

variable {proxy : ClientProxy} {routeId : String} {plainRequest : Value} {params : CallParams}
  {exchange : Exchange}

/-- A signed request is the plain request's, for the route asked for. -/
theorem sign_eq_ok (signs : proxy.sign routeId plainRequest params = .ok exchange) :
    proxy.registry.get routeId = some exchange.route ∧
      exchange.id = (plainRequest.get "id").getD .null ∧
      exchange.pending.nonce = params.nonce ∧
      exchange.pending.deadlineUnix = params.deadlineUnix ∧
      ∃ method inputs, (plainRequest.get "method").bind Json.asStr = some method ∧
        buildSignedRequestWith ((plainRequest.get "id").getD .null) method
          (((plainRequest.get "params").bind Json.asObject).getD []) inputs
          proxy.signer.signPreimage = .ok exchange.signed := by
  simp only [sign, Except.bind_eq_ok] at signs
  obtain ⟨_, found, method, named, _, _, _, built, signs⟩ := signs
  obtain ⟨_, _, built⟩ := Except.bind_eq_ok.mp (Except.mapError_eq_ok.mp built)
  cases signs
  exact ⟨Option.okOr_eq_ok.mp found, rfl, rfl, rfl, method, _, Option.okOr_eq_ok.mp named, built⟩

/-- A call is refused before anything is sent, and changes nothing; or its request is signed,
registered, sent and forgotten again, all but its nonce, and any response is what the proxy
concludes from a reply in time. -/
theorem handle_cases (proxy : ClientProxy) (correlation : CorrelationStore) (routeId : String)
    (plainRequest : Value) (params : CallParams) :
    (∃ error, proxy.handle correlation routeId plainRequest params =
        ⟨.error error, correlation, none⟩) ∨
      ∃ exchange, proxy.sign routeId plainRequest params = .ok exchange ∧
        (proxy.handle correlation routeId plainRequest params).sent =
          some exchange.signed.wireBytes ∧
        (proxy.handle correlation routeId plainRequest params).correlation =
          { correlation with nonceWindow := (correlation.entered exchange.pending).nonceWindow } ∧
        ∀ response,
          (proxy.handle correlation routeId plainRequest params).outcome = .ok response →
          ∃ reply, proxy.transport exchange.signed.wireBytes = .ok reply ∧
            params.nowUnix ≤ exchange.pending.deadlineUnix ∧
            proxy.conclude exchange reply = .ok response := by
  cases signs : proxy.sign routeId plainRequest params with
  | error error => exact .inl ⟨error, by simp only [handle, signs]⟩
  | ok exchange =>
    rcases correlation.register_cases exchange.pending params.nowUnix with
      ⟨error, refused⟩ | ⟨absent, _, entered⟩
    · exact .inl ⟨.failedClosed error.toMcpsError, by simp only [handle, signs, refused]⟩
    · refine .inr ⟨exchange, rfl, ?_⟩
      have forgotten := CorrelationStore.erase_entered absent
      cases sends : proxy.transport exchange.signed.wireBytes with
      | error failure =>
        simp only [handle, signs, entered, sends]
        exact ⟨trivial, forgotten, nofun⟩
      | ok reply =>
        have taken := (correlation.entered exchange.pending).takeForResponse_snd
          exchange.pending.correlationId params.nowUnix
        have inTime := @CorrelationStore.takeForResponse_eq_ok
          (correlation.entered exchange.pending) exchange.pending.correlationId params.nowUnix
        rcases answer : (correlation.entered exchange.pending).takeForResponse
          exchange.pending.correlationId params.nowUnix with ⟨outcome, rest⟩
        rw [answer] at taken inTime
        cases outcome with
        | error error =>
          simp only [handle, signs, entered, sends, answer]
          exact ⟨trivial, taken.trans forgotten, nofun⟩
        | ok entry =>
          obtain ⟨found, early⟩ := (inTime.mp rfl)
          simp only [CorrelationStore.entered, Assoc.find?_cons_self, Option.some.injEq] at found
          subst found
          simp only [handle, signs, entered, sends, answer]
          exact ⟨trivial, taken.trans forgotten, fun response concluded =>
            ⟨reply, rfl, early, concluded⟩⟩

end

end ClientProxy

end Mcps
