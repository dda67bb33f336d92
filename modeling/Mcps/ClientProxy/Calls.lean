import Mcps.ClientProxy.InnerErrors
import Mcps.Lib.History

/-!
# Sequences of calls

A client proxy handles one call after the other and keeps its correlation store from call
to call.  Every call takes its request out of the store again before it returns, so that a
response is only ever judged against the request of the same call.

The nonces are not taken out: a call leaves its nonce in the window, and the proxy never
sweeps it.
-/

namespace Mcps.ClientProxy

open ClientCore

/-- One call, with the proxy as the call finds it: the remote end, the trust source, the
signer and the providers may answer every call differently. -/
structure Call where
  proxy : ClientProxy
  routeId : String
  plainRequest : Value
  params : CallParams

/-- A call and its end. -/
structure Answered where
  call : Call
  handled : Handled

section

variable [Crates]

/-- The proxy as a machine over its correlation store. -/
def machine : Machine CorrelationStore Call Answered where
  step correlation call :=
    let handled := call.proxy.handle correlation call.routeId call.plainRequest call.params
    (⟨call, handled⟩, handled.correlation)

/-! ## Only the call's own exchange is accepted -/

/-- The response was rebuilt from a reply that verifies, in time, against the hash of the
object that was sent in this call and the server the route expects. -/
def VerifiedOwnExchange (answered : Answered) (response : ProxyResponse) : Prop :=
  ∃ route object sent hash reply verified,
    answered.call.proxy.registry.get answered.call.routeId = some route ∧
    answered.handled.sent = some sent ∧
    Crates.toVec object = some sent ∧
    requestHash object = .ok hash ∧
    answered.call.proxy.transport sent = .ok reply ∧
    verifySignedResponse reply answered.call.proxy.trustResolver
      ⟨hash, canonicalizationIdInt53V1, some route.signerAudience.expectedServerSigner⟩ =
        .ok verified ∧
    plainResponseFromVerified ((answered.call.plainRequest.get "id").getD .null) reply =
      .ok response.plainResponse ∧
    answered.call.params.nowUnix ≤ answered.call.params.deadlineUnix

omit [Crates] in
/-- The call was made on a route where plain responses are allowed. -/
def OnLegacyRoute (answered : Answered) : Prop :=
  ∃ route, answered.call.proxy.registry.get answered.call.routeId = some route ∧
    route.enforcementMode = .allowLegacyExplicit ∧ route.legacyAllowed = true

variable {response : ProxyResponse}

theorem conclude_eq_ok_legacy {proxy : ClientProxy} {exchange : Exchange} {reply : Bytes}
    (concluded : proxy.conclude exchange reply = .ok response)
    (path : response.path = .legacyExplicit) :
    exchange.route.enforcementMode = .allowLegacyExplicit ∧
      exchange.route.legacyAllowed = true := by
  unfold conclude at concluded
  dsimp only at concluded
  split at concluded
  next =>
    obtain ⟨_, _, ends⟩ := Except.bind_eq_ok.mp concluded
    cases ends
    cases path
  next falls => exact allowed_of_fallBackToLegacy falls
  next => cases concluded

theorem pending_handle (proxy : ClientProxy) (correlation : CorrelationStore) (routeId : String)
    (plainRequest : Value) (params : CallParams) :
    (proxy.handle correlation routeId plainRequest params).correlation.pending =
      correlation.pending := by
  rcases proxy.handle_cases correlation routeId plainRequest params with
    ⟨_, refused⟩ | ⟨_, _, _, kept, _⟩
  · rw [refused]
  · rw [kept]

variable {correlation : CorrelationStore}

theorem verifiedOwnExchange_handle {call : Call}
    (handled : (machine.step correlation call).1.handled.outcome = .ok response)
    (path : response.path = .mcpsVerified) :
    VerifiedOwnExchange (machine.step correlation call).1 response := by
  rcases call.proxy.handle_cases correlation call.routeId call.plainRequest call.params with
    ⟨_, refused⟩ | ⟨exchange, signs, sent, _, concludes⟩
  · change (call.proxy.handle ..).outcome = _ at handled
    rw [refused] at handled
    cases handled
  · obtain ⟨reply, answered, inTime, concluded⟩ := concludes response handled
    obtain ⟨⟨verified, verifies⟩, rebuilt⟩ := conclude_eq_ok concluded path
    obtain ⟨routed, identified, _, deadline, _, _, _, built⟩ := sign_eq_ok signs
    obtain ⟨_, _, _, _, _, _, hashed, written⟩ := buildSignedRequestWith_eq_ok built
    rw [identified] at rebuilt
    rw [deadline] at inTime
    exact ⟨exchange.route, exchange.signed.object, exchange.signed.wireBytes,
      exchange.signed.requestHash, reply, verified, routed, sent, written, hashed, answered,
      verifies, rebuilt, inTime⟩

theorem onLegacyRoute_handle {call : Call}
    (handled : (machine.step correlation call).1.handled.outcome = .ok response)
    (path : response.path = .legacyExplicit) : OnLegacyRoute (machine.step correlation call).1 := by
  rcases call.proxy.handle_cases correlation call.routeId call.plainRequest call.params with
    ⟨_, refused⟩ | ⟨exchange, signs, _, _, concludes⟩
  · change (call.proxy.handle ..).outcome = _ at handled
    rw [refused] at handled
    cases handled
  · obtain ⟨_, _, _, concluded⟩ := concludes response handled
    exact ⟨exchange.route, (sign_eq_ok signs).1, conclude_eq_ok_legacy concluded path⟩

/-- Nothing is outstanding at the end of the call, a response on the verified path comes from
the call's own exchange, and one on the legacy path from a route that allows it. -/
def AcceptsOnlyOwnExchange (answered : Answered) : Prop :=
  answered.handled.correlation.outstanding = 0 ∧
    ∀ response, answered.handled.outcome = .ok response →
      (response.path = .mcpsVerified → VerifiedOwnExchange answered response) ∧
      (response.path = .legacyExplicit → OnLegacyRoute answered)

theorem acceptsOnlyOwnExchange_step (empty : correlation.pending = []) (call : Call) :
    AcceptsOnlyOwnExchange (machine.step correlation call).1 := by
  constructor
  · exact congrArg List.length ((pending_handle ..).trans empty)
  · intro response handled
    exact ⟨verifiedOwnExchange_handle handled, onLegacyRoute_handle handled⟩

/-- Every call of a run that starts with a fresh store accepts only its own exchange. -/
theorem handle_accepts_ownExchange (calls : List Call) (answered : Answered)
    (happened : answered ∈ machine.answers .new calls) : AcceptsOnlyOwnExchange answered := by
  have kept : ∀ correlation call, correlation.pending = [] → True →
      (machine.step correlation call).2.pending = [] :=
    fun correlation call empty _ => (pending_handle ..).trans empty
  exact Machine.forall_mem_answers kept
    (fun correlation call empty _ => acceptsOnlyOwnExchange_step empty call) rfl
    (Machine.allowed_true _ calls) answered happened

end

/-- A call that is answered. -/
def answeredCall : Call :=
  ⟨callingProxy (replyWith successMember successSignature), "tools", plainCall, callParams⟩

/-- The response to the call comes from the exchange of the call. -/
theorem handle_accepts_ownExchange_success :
    letI := callCrates
    let answered := (machine.step .new answeredCall).1
    answered.handled.outcome = .ok (plainSuccess (.object [successMember])) ∧
      VerifiedOwnExchange answered (plainSuccess (.object [successMember])) := by
  let crates := callCrates
  have own := handle_accepts_ownExchange [answeredCall] (machine.step .new answeredCall).1
    (List.mem_singleton_self _)
  exact ⟨handle_callingProxy_success, (own.2 _ handle_callingProxy_success).1 rfl⟩

end Mcps.ClientProxy
