import Mcps.Core.Evidence
import Mcps.Core.Reference
import Mcps.Proxy.Handler

/-!
# The proxy fails closed

A call of the handler is one of two things: a refusal, which leaves the inner server
alone and answers with an unsigned error, or the forwarding of one request that passed
verification and every gate.  `handleWithTransport_cases` says so; what a dispatch
implies, and when the handler unwinds, follow from it.
-/

namespace Mcps.Proxy

open Option Except

variable [Crates]

/-! ## Gates -/

/-- The identity the transport binding is asked about: the one the load balancer
asserted when an assertion verifier is configured, else the connection's. -/
def BoundIdentity (proxy : Proxy) (verified : VerifiedRequest) (now : Int)
    (transportIdentity : Option TransportIdentity) (header : Option String)
    (identity : Option TransportIdentity) : Prop :=
  match proxy.lbAssertion with
  | none => identity = transportIdentity
  | some lb => proxy.transportBinding.isSome ∧ ∃ presented asserted, header = some presented ∧
      lb.verify presented verified.requestHash now = .ok asserted ∧ identity = some asserted

/-- A verified request passes every configured gate. -/
structure PassesGates (proxy : Proxy) (requestBytes : Bytes) (verified : VerifiedRequest)
    (now : Int) (transportIdentity : Option TransportIdentity) (header : Option String) : Prop where
  policy : ∀ evaluate ∈ proxy.policy, ∃ request : MapValue,
    Crates.fromSlice requestBytes = some request ∧
      evaluate verified request.val proxy.resolver now = .allow
  binding : ∃ identity, proxy.BoundIdentity verified now transportIdentity header identity ∧
    ∀ check ∈ proxy.transportBinding, check verified.verifiedSigner identity = .ok ()

variable {proxy : Proxy} {parsed : Option MapValue} {now : Int}

theorem checkPolicy_eq_ok {verified : VerifiedRequest} {idValue : Value} :
    proxy.checkPolicy parsed verified now idValue = .ok () ↔
      ∀ evaluate ∈ proxy.policy, ∃ request, parsed = some request ∧
        evaluate verified request.val proxy.resolver now = .allow := by
  unfold checkPolicy
  cases proxy.policy with
  | none => simp
  | some evaluate =>
    cases parsed with
    | none => simp
    | some request =>
      cases decision : evaluate verified request.val proxy.resolver now with
      | allow | deny _ => simp [decision]

variable {header : Option String} {transportIdentity : Option TransportIdentity}

theorem checkLbAssertion_eq_ok {verified : VerifiedRequest} {identity : Option TransportIdentity} :
    (∃ asserted, proxy.checkLbAssertion header verified now = .ok asserted ∧
        asserted.or transportIdentity = identity) ↔
      proxy.BoundIdentity verified now transportIdentity header identity := by
  unfold checkLbAssertion BoundIdentity
  cases proxy.lbAssertion with
  | none =>
    constructor
    · rintro ⟨asserted, checked, rfl⟩
      cases checked
      rfl
    · rintro rfl
      exact ⟨none, rfl, rfl⟩
  | some lb =>
    simp only [throw_eq_error, bind_error, bind_eq_ok, guard_eq_ok, okOr_eq_ok, mapError_eq_ok]
    constructor
    · rintro ⟨_, ⟨bound, presented, given, identity, accepted, ⟨⟩⟩, rfl⟩
      exact ⟨by simpa [isSome_iff_ne_none] using bound, presented, identity, given, accepted, rfl⟩
    · rintro ⟨bound, presented, asserted, given, accepted, rfl⟩
      exact ⟨_, ⟨by simpa [isSome_iff_ne_none] using bound, presented, given, asserted, accepted,
        rfl⟩, rfl⟩

omit [Crates] in
theorem checkTransportBinding_eq_ok {verified : VerifiedRequest}
    {asserted : Option TransportIdentity} :
    proxy.checkTransportBinding verified asserted transportIdentity = .ok () ↔
      ∀ check ∈ proxy.transportBinding,
        check verified.verifiedSigner (asserted.or transportIdentity) = .ok () := by
  unfold checkTransportBinding
  cases proxy.transportBinding with
  | none | some _ => simp

theorem checkGates_eq_ok {proxy : Proxy} {requestBytes : Bytes} {verified : VerifiedRequest}
    {now : Int} {transportIdentity : Option TransportIdentity} {header : Option String}
    {idValue : Value} :
    proxy.checkGates (Crates.fromSlice requestBytes) verified now transportIdentity header
        idValue = .ok () ↔
      proxy.PassesGates requestBytes verified now transportIdentity header := by
  simp only [checkGates, bind_eq_ok, mapError_eq_ok, checkTransportBinding_eq_ok]
  constructor
  · rintro ⟨_, allowed, asserted, identified, bound⟩
    exact ⟨checkPolicy_eq_ok.mp allowed, _,
      checkLbAssertion_eq_ok.mp ⟨asserted, identified, rfl⟩, bound⟩
  · rintro ⟨allowed, identity, identified, bound⟩
    obtain ⟨asserted, checked, rfl⟩ := checkLbAssertion_eq_ok.mpr identified
    exact ⟨(), checkPolicy_eq_ok.mpr allowed, asserted, checked, bound⟩

theorem sortedKeys_requestId (requestBytes : Bytes) : (requestId requestBytes).SortedKeys := by
  unfold requestId
  cases Crates.fromSlice requestBytes with
  | none => exact Json.sortedKeys_null
  | some message =>
    cases found : message.val.get "id" with
    | none => simp [found]
    | some id => simpa [found] using message.property.get found

theorem checkGates_eq_error {verified : VerifiedRequest} {idValue : Value}
    (sorted : idValue.SortedKeys) {refusal : Bytes}
    (refused : proxy.checkGates parsed verified now transportIdentity header idValue =
      .error refusal) : UnsignedError refusal := by
  rcases bind_eq_error.mp refused with policy | ⟨_, _, refused⟩
  · unfold checkPolicy at policy
    split at policy
    · cases policy
    · split at policy
      · cases policy
        exact unsignedError_errorBytes _ _ sorted
      · split at policy
        · cases policy
        · cases policy
          exact unsignedError_errorBytes _ _ sorted
  · rcases bind_eq_error.mp refused with lb | ⟨_, _, binding⟩
    · obtain ⟨_, _, rfl⟩ := mapError_eq_error.mp lb
      exact unsignedError_errorBytes _ _ sorted
    · obtain ⟨_, _, rfl⟩ := mapError_eq_error.mp binding
      exact unsignedError_errorBytes _ _ sorted

/-! ## Forwarding -/

omit [Crates] in
/-- Scrubbing leaves `params` an object, so that the `_meta` of a request that had an
envelope there can be indexed. -/
theorem indexMut_scrub {request envelope : Value}
    (located : locateEnvelope request "params" requestMetaKey = .ok envelope)
    (change : Value → Value) :
    ∃ edited, indexMut ["params", "_meta"] change (scrubProxyOwnedMeta request) = .ok edited := by
  obtain ⟨_, found, _⟩ := bind_eq_some_iff.mp (okOr_eq_ok.mp located)
  obtain ⟨_, inRequest, inParams⟩ := bind_eq_some_iff.mp found
  obtain ⟨_, rfl, params_eq⟩ := Json.get_eq_some inRequest
  obtain ⟨_, rfl, _⟩ := Json.get_eq_some inParams
  rw [scrubProxyOwnedMeta, indexMut_cons rfl, find?_scrubMembers rfl, params_eq]
  exact ⟨_, rfl⟩

/-- What is known of a request that verified. -/
structure Verified (requestBytes : Bytes) (verified : VerifiedRequest) : Prop where
  request : ∃ (message : MapValue) (envelope : Value),
    Crates.fromSlice requestBytes = some message ∧
      locateEnvelope message.val "params" requestMetaKey = .ok envelope ∧
      ∃ preimage, requestSigningPreimage message.val = .ok preimage
  identified : ∀ binding, verified.authorization = .draft02Binding binding →
    verified.canonicalizationId.isSome

variable {requestBytes : Bytes} {config : VerificationConfig}

theorem RequestEvidence.verified {evidence : RequestEvidence}
    (established : evidence.Established requestBytes config now) {verified : VerifiedRequest}
    (claims : verified.toRequestClaims = evidence.claims) : Verified requestBytes verified := by
  obtain ⟨message, read, same⟩ := established.parsed
  obtain ⟨envelope, located⟩ := established.located
  constructor
  · exact ⟨message, envelope, read, same ▸ located, same ▸ established.signed⟩
  · intro binding authorization
    rw [claims] at authorization ⊢
    exact established.identified binding authorization

theorem verified_of_dispatch {σ : Type} [ReplayCache σ] {resolver : TrustResolver} {replay : σ}
    {policy : ExpectedVersionPolicy} {verified : VerifiedRequest}
    (accepted : (verifyRequestDispatch requestBytes resolver replay config now policy).1 =
      .ok verified) : Verified requestBytes verified := by
  obtain ⟨_, established, claims, _⟩ := verifyRequestDispatch_ok (Prod.ext accepted rfl)
  exact RequestEvidence.verified established claims

theorem buildVerifiedContext_ok {verified : VerifiedRequest}
    (known : Verified requestBytes verified) (proxy : Proxy) (now : Int) :
    ∃ context, proxy.buildVerifiedContext verified now = .ok context := by
  unfold buildVerifiedContext
  cases authorization : verified.authorization with
  | draft01Hash authorizationHash => exact ⟨_, rfl⟩
  | draft02Binding binding =>
    obtain ⟨_, held⟩ := isSome_iff_exists.mp (known.identified binding authorization)
    rw [held]
    exact ⟨_, rfl⟩

omit [Crates] in
theorem sortedKeys_buildVerifiedContext {verified : VerifiedRequest} {context : Value}
    (built : proxy.buildVerifiedContext verified now = .ok context) : context.SortedKeys := by
  unfold buildVerifiedContext at built
  cases authorization : verified.authorization with
  | draft01Hash authorizationHash =>
    rw [authorization] at built
    cases built
    simp [Assoc.Ordered]
    decide
  | draft02Binding binding =>
    rw [authorization] at built
    obtain ⟨_, _, built⟩ := bind_eq_ok.mp built
    cases built
    cases binding
    all_goals
      simp [Assoc.Ordered, bindingValue]
      decide

omit [Crates] in
theorem sortedKeys_injectContext {context : Value} (contextSorted : context.SortedKeys)
    (metaValue : Value) (sorted : metaValue.SortedKeys) :
    (injectContext context metaValue).SortedKeys := by
  cases metaValue with
  | object members => exact sorted.insert verifiedMetaKey contextSorted
  | _ =>
    simpa [injectContext, Assoc.Ordered] using contextSorted

theorem buildForwardedRequest_cases {verified : VerifiedRequest}
    (known : Verified requestBytes verified) (proxy : Proxy) (now : Int) :
    ∃ request : MapValue, proxy.buildForwardedRequest requestBytes verified now =
      (Crates.toVec request.val).okOr (.error .canonicalizationFailed) := by
  obtain ⟨message, _, read, located, _⟩ := known.request
  obtain ⟨context, built⟩ := buildVerifiedContext_ok known proxy now
  obtain ⟨edited, indexed⟩ := indexMut_scrub located (injectContext context)
  have sorted : edited.SortedKeys :=
    sortedKeys_indexMut (sortedKeys_scrubAt message.property false)
      (sortedKeys_injectContext (sortedKeys_buildVerifiedContext built)) indexed
  refine ⟨⟨edited, sorted⟩, ?_⟩
  unfold buildForwardedRequest
  rw [read, built]
  simp only [okOr_some, bind_ok, Except.mapError, indexed]

/-! ## Calls of the handler -/

variable {σ : Type} [ReplayCache σ]

/-- A request is admitted: it verifies against a replay cache that is not borrowed, and
passes every gate. -/
structure Admits (proxy : Proxy) (replay : RefCell σ) (requestBytes : Bytes) (now : Int)
    (transportIdentity : Option TransportIdentity) (header : Option String)
    (verified : VerifiedRequest) : Prop where
  unborrowed : replay.borrowed = false
  verifies : (verifyRequestDispatch requestBytes proxy.resolver replay.content proxy.config now
    proxy.versionPolicy).1 = .ok verified
  gates : proxy.PassesGates requestBytes verified now transportIdentity header

theorem Admits.known {replay : RefCell σ} {verified : VerifiedRequest}
    (admits : proxy.Admits replay requestBytes now transportIdentity header verified) :
    Verified requestBytes verified :=
  verified_of_dispatch admits.verifies

section

variable (proxy : Proxy) (replay : RefCell σ) (requestBytes : Bytes) (now : Int)
  (transportIdentity : Option TransportIdentity) (header : Option String)

theorem verifyInbound_eq_ok {verified : VerifiedRequest} :
    (proxy.verifyInbound replay requestBytes now).1 = .ok verified ↔
      replay.borrowed = false ∧
        (verifyRequestDispatch requestBytes proxy.resolver replay.content proxy.config now
          proxy.versionPolicy).1 = .ok verified := by
  unfold verifyInbound
  cases replay.borrowed with
  | true | false => simp

theorem handleWithTransport_refuses
    (barred : ∀ verified,
      ¬ proxy.Admits replay requestBytes now transportIdentity header verified) :
    let handled := proxy.handleWithTransport replay requestBytes now transportIdentity header
    handled.effects = [] ∧ ∃ bytes, handled.outcome = .ok bytes ∧ UnsignedError bytes := by
  unfold handleWithTransport
  have inbound := @verifyInbound_eq_ok _ _ _ proxy replay requestBytes now
  generalize proxy.verifyInbound replay requestBytes now = pair at inbound ⊢
  obtain ⟨result, _⟩ := pair
  cases result with
  | error error =>
    exact ⟨rfl, _, rfl, unsignedError_errorBytes _ _ (sortedKeys_requestId requestBytes)⟩
  | ok verified =>
    obtain ⟨unborrowed, verifies⟩ := inbound.mp rfl
    cases gates : proxy.checkGates (Crates.fromSlice requestBytes) verified now
        transportIdentity header (requestId requestBytes) with
    | error refusal =>
      simp only [gates, true_and]
      exact ⟨refusal, rfl, checkGates_eq_error (sortedKeys_requestId requestBytes) gates⟩
    | ok passed =>
      exact absurd ⟨unborrowed, verifies, checkGates_eq_ok.mp gates⟩ (barred verified)

theorem handleWithTransport_admits {verified : VerifiedRequest}
    (admits : proxy.Admits replay requestBytes now transportIdentity header verified) :
    let handled := proxy.handleWithTransport replay requestBytes now transportIdentity header
    let signed := proxy.dispatchAndSign requestBytes verified now (requestId requestBytes)
    handled.effects = signed.2 ∧ handled.outcome = answer (requestId requestBytes) signed.1 := by
  unfold handleWithTransport
  have inbound := (verifyInbound_eq_ok proxy replay requestBytes now).mpr
    ⟨admits.unborrowed, admits.verifies⟩
  have gates := (@checkGates_eq_ok _ proxy requestBytes verified now transportIdentity header
    (requestId requestBytes)).mpr admits.gates
  generalize proxy.verifyInbound replay requestBytes now = pair at inbound ⊢
  obtain ⟨_, _⟩ := pair
  subst inbound
  simp [gates]

end

omit [Crates] in
theorem filterMap_log (proxy : Proxy) (signer : String) (event : InnerLogEvent) :
    (proxy.log signer event).filterMap Effect.request? = [] := by
  unfold log
  split <;> rfl

/-- The proxy fails closed.  The inner server is called only with a request that
verified and passed every configured gate; it is called at most once; and whenever it
is not called the answer is an unsigned error. -/
theorem handleWithTransport_fails_closed (proxy : Proxy) (replay : RefCell σ)
    (requestBytes : Bytes) (now : Int) (transportIdentity : Option TransportIdentity)
    (header : Option String) :
    let handled := proxy.handleWithTransport replay requestBytes now transportIdentity header
    (handled.dispatched ≠ [] →
      ∃ verified, proxy.Admits replay requestBytes now transportIdentity header verified) ∧
    handled.dispatched.length ≤ 1 ∧
    (handled.dispatched = [] → ∃ bytes, handled.outcome = .ok bytes ∧ UnsignedError bytes) := by
  intro handled
  by_cases admitted :
      ∃ verified, proxy.Admits replay requestBytes now transportIdentity header verified
  · rcases admitted with ⟨verified, admits⟩
    rcases handleWithTransport_admits proxy replay requestBytes now transportIdentity header
      admits with ⟨effects, outcome⟩
    rcases buildForwardedRequest_cases admits.known proxy now with ⟨request, built⟩
    refine ⟨fun _ => ⟨verified, admits⟩, ?_⟩
    unfold Handled.dispatched
    rw [effects, outcome, dispatchAndSign, built]
    cases written : Crates.toVec request.val with
    | none => exact ⟨by simp, fun _ => ⟨_, rfl,
        unsignedError_errorBytes _ _ (sortedKeys_requestId requestBytes)⟩⟩
    | some forwarded =>
      simp only [Option.okOr_some]
      cases proxy.buildSignedResponse (proxy.inner forwarded) verified now
          (requestId requestBytes) with
      | error _ | ok _ => simp [filterMap_log, Effect.request?]
  · rcases handleWithTransport_refuses proxy replay requestBytes now transportIdentity header
      (not_exists.mp admitted) with ⟨effects, answered⟩
    have none : handled.dispatched = [] := by
      rw [Handled.dispatched, effects]
      rfl
    rw [none]
    exact ⟨fun sent => absurd rfl sent, Nat.zero_le 1, fun _ => answered⟩

end Mcps.Proxy
