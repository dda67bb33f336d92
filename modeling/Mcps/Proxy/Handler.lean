import Mcps.Proxy.MetaEdit
import Mcps.Proxy.Transport

/-!
# The verify-before-dispatch proxy

The sidecar's request handler.  A request passes verification and then up to three
optional gates: the authorization policy, the load balancer's assertion, and the
transport binding.  Only then is it forwarded to the inner server, without the signed
envelope and with the proxy's own verified context, and the inner server's answer is
wrapped and signed.

The handler reports what it returned, or why it unwound, together with the state of
the replay cache and the effects it had on the way.
-/

namespace Mcps

/-! ## The proxy -/

/-- A `RefCell`: its content, and whether it is borrowed at the time. -/
structure RefCell (σ : Type) where
  content : σ
  borrowed : Bool

/-- An authorization policy's decision on a verified request. -/
abbrev PolicyEnforcement :=
  VerifiedRequest → Value → TrustResolver → (now : Int) → AuthorizationDecision

/-- A sidecar.  The signer fails with no signature; the inner server answers bytes with
bytes; `logSink` says whether lifecycle events are reported. -/
structure Proxy where
  signer : Bytes → Option String
  serverSigner : String
  keyId : String
  resolver : TrustResolver
  config : VerificationConfig
  versionPolicy : ExpectedVersionPolicy
  inner : Bytes → Bytes
  policy : Option PolicyEnforcement
  transportBinding : Option TransportBindingPolicy
  lbAssertion : Option LbAssertionBinding
  logSink : Bool

inductive InnerLogEvent where
  | requestForwarded
  | responseSigned
  deriving DecidableEq, Repr

/-- What the handler does besides answering. -/
inductive Effect where
  | log (signer : String) (event : InnerLogEvent)
  | dispatch (request : Bytes)
  deriving DecidableEq

/-- How a step of the handler can end early. -/
inductive Stop where
  | error (error : McpsError)
  | panic (cause : Panic)
  deriving DecidableEq, Repr

/-- The end of a call of the handler. -/
structure Handled (σ : Type) where
  outcome : Except Panic Bytes
  replay : RefCell σ
  effects : List Effect

/-- The request of a call of the inner server. -/
def Effect.request? : Effect → Option Bytes
  | .dispatch request => some request
  | .log _ _ => none

/-- The requests the inner server was called with. -/
def Handled.dispatched {σ : Type} (handled : Handled σ) : List Bytes :=
  handled.effects.filterMap Effect.request?

namespace Proxy

/-! ## Documents the proxy writes -/

/-- The verified-context block for the inner server, by profile. -/
def buildVerifiedContext (proxy : Proxy) (verified : VerifiedRequest) (now : Int) :
    Except McpsError Value :=
  let verifiedAt := unixToRfc3339Utc now
  match verified.authorization with
  | .draft01Hash authorizationHash => .ok (.object [
      ("audience", .string verified.audience),
      ("authorization_hash", .string authorizationHash),
      ("key_id", .string verified.keyId),
      ("on_behalf_of", .string verified.onBehalfOf),
      ("request_hash", .string verified.requestHash),
      ("verified_at", .string verifiedAt),
      ("verified_signer", .string verified.verifiedSigner),
      ("verifier", .string proxy.serverSigner)])
  | .draft02Binding authorizationBinding => do
    let canonicalizationId ← verified.canonicalizationId.okOr .canonicalizationIdMissing
    return .object [
      ("audience", .string verified.audience),
      ("authorization_binding", bindingValue authorizationBinding),
      ("canonicalization_id", .string canonicalizationId),
      ("key_id", .string verified.keyId),
      ("on_behalf_of", .string verified.onBehalfOf),
      ("request_hash", .string verified.requestHash),
      ("verified_at", .string verifiedAt),
      ("verified_signer", .string verified.verifiedSigner),
      ("verifier", .string proxy.serverSigner),
      ("version", .string versionDraft02)]

/-- Put the verified context into a `_meta`, or make one that holds only it. -/
def injectContext (context : Value) : Value → Value
  | .object members => .object (Assoc.insert codePointLt verifiedMetaKey context members)
  | _ => .object [(verifiedMetaKey, context)]

/-- The response envelope around a signature block, by profile. -/
def responseEnvelope (proxy : Proxy) (verified : VerifiedRequest) (now : Int)
    (signature : Value) : Except McpsError Value :=
  let issuedAt := unixToRfc3339Utc now
  match verified.authorization with
  | .draft01Hash _ => .ok (.object [
      ("issued_at", .string issuedAt), ("request_hash", .string verified.requestHash),
      ("server_signer", .string proxy.serverSigner), ("signature", signature)])
  | .draft02Binding _ => do
    let canonicalizationId ← verified.canonicalizationId.okOr .canonicalizationIdMissing
    return .object [
      ("canonicalization_id", .string canonicalizationId), ("issued_at", .string issuedAt),
      ("request_hash", .string verified.requestHash),
      ("server_signer", .string proxy.serverSigner), ("signature", signature),
      ("version", .string versionDraft02)]

/-- The signature block before the signature is known. -/
def unsignedBlock (proxy : Proxy) : Value :=
  .object [("alg", .string sigAlgEd25519), ("key_id", .string proxy.keyId)]

def buildResponseEnvelope (proxy : Proxy) (verified : VerifiedRequest) (now : Int) :
    Except McpsError Value :=
  proxy.responseEnvelope verified now proxy.unsignedBlock

/-- The members of the result object for an inner server's outcome: those of an object
result, any other result under `value`, and a message without result under
`inner_error`. -/
def outcomeMembers (inner : Value) : List (String × Value) :=
  match inner.get "result" with
  | some (.object members) => members
  | some result => [(responseWrapValueKey, result)]
  | none => [(responseWrapInnerErrorKey, inner)]

variable [Crates]

/-- Strip the proxy-owned keys from a request and inject the verified context. -/
def buildForwardedRequest (proxy : Proxy) (requestBytes : Bytes) (verified : VerifiedRequest)
    (now : Int) : Except Stop Bytes := do
  let request ← (Crates.fromSlice requestBytes).okOr (.error .canonicalizationFailed)
  let request := scrubProxyOwnedMeta request.val
  let context ← (proxy.buildVerifiedContext verified now).mapError .error
  let request ← (indexMut ["params", "_meta"] (injectContext context) request).mapError .panic
  (Crates.toVec request).okOr (.error .canonicalizationFailed)

/-- Wrap, scrub and sign the inner server's response. -/
def buildSignedResponse (proxy : Proxy) (innerResponse : Bytes) (verified : VerifiedRequest)
    (now : Int) (idValue : Value) : Except Stop Bytes := do
  let inner ← (Crates.fromSlice innerResponse).okOr (.error .canonicalizationFailed)
  let result := scrubProxyOwnedMeta (.object (outcomeMembers inner.val))
  let response : Value :=
    .object [("id", idValue), ("jsonrpc", .string "2.0"), ("result", result)]
  let envelope ← (proxy.buildResponseEnvelope verified now).mapError .error
  let response ←
    (indexMut ["result", "_meta", responseMetaKey] (fun _ => envelope) response).mapError .panic
  let preimage ← (responseSigningPreimage response).mapError .error
  let signature ← (proxy.signer preimage).okOr (.error .responseSigInvalid)
  let response ← (indexMut ["result", "_meta", responseMetaKey, "signature", "value"]
    (fun _ => .string signature) response).mapError .panic
  (Crates.toVec response).okOr (.error .canonicalizationFailed)

/-! ## Handling a request -/

def log (proxy : Proxy) (signer : String) (event : InnerLogEvent) : List Effect :=
  if proxy.logSink then [.log signer event] else []

/-- Forward a verified request and sign the answer; with the effects up to the end. -/
def dispatchAndSign (proxy : Proxy) (requestBytes : Bytes) (verified : VerifiedRequest)
    (now : Int) (idValue : Value) : Except Stop Bytes × List Effect :=
  match proxy.buildForwardedRequest requestBytes verified now with
  | .error stop => (.error stop, [])
  | .ok forwarded =>
    let effects :=
      proxy.log verified.verifiedSigner .requestForwarded ++ [.dispatch forwarded]
    match proxy.buildSignedResponse (proxy.inner forwarded) verified now idValue with
    | .error stop => (.error stop, effects)
    | .ok signed => (.ok signed, effects ++ proxy.log verified.verifiedSigner .responseSigned)

/-- The policy gate; a refusal is the error object to answer with. -/
def checkPolicy (proxy : Proxy) (parsed : Option MapValue) (verified : VerifiedRequest)
    (now : Int) (idValue : Value) : Except Bytes Unit :=
  match proxy.policy with
  | none => .ok ()
  | some evaluate =>
    match parsed with
    | none => .error (jsonRpcErrorObject .canonicalizationFailed idValue)
    | some request =>
      match evaluate verified request.val proxy.resolver now with
      | .allow => .ok ()
      | .deny error => .error (jsonRpcAuthorizationError error idValue)

/-- The assertion gate; yields the asserted identity if a verifier is configured. -/
def checkLbAssertion (proxy : Proxy) (header : Option String) (verified : VerifiedRequest)
    (now : Int) : Except McpsError (Option TransportIdentity) :=
  match proxy.lbAssertion with
  | none => .ok none
  | some lb => do
    if proxy.transportBinding.isNone then throw .transportBindingFailed
    let presented ← header.okOr .transportBindingFailed
    let identity ← (lb.verify presented verified.requestHash now).mapError
      fun _ => .transportBindingFailed
    return some identity

/-- The transport gate, on the asserted identity before the connection's own. -/
def checkTransportBinding (proxy : Proxy) (verified : VerifiedRequest)
    (lbVerifiedIdentity transportIdentity : Option TransportIdentity) : Except McpsError Unit :=
  match proxy.transportBinding with
  | none => .ok ()
  | some check => check verified.verifiedSigner (lbVerifiedIdentity.or transportIdentity)

/-- All gates between verification and dispatch, in order. -/
def checkGates (proxy : Proxy) (parsed : Option MapValue) (verified : VerifiedRequest)
    (now : Int) (transportIdentity : Option TransportIdentity) (header : Option String)
    (idValue : Value) : Except Bytes Unit := do
  proxy.checkPolicy parsed verified now idValue
  let lbVerifiedIdentity ← (proxy.checkLbAssertion header verified now).mapError
    fun error => jsonRpcErrorObject error idValue
  (proxy.checkTransportBinding verified lbVerifiedIdentity transportIdentity).mapError
    fun error => jsonRpcErrorObject error idValue

variable {σ : Type} [ReplayCache σ]

/-- Verify a request against the replay cache in its cell. -/
def verifyInbound (proxy : Proxy) (replay : RefCell σ) (requestBytes : Bytes) (now : Int) :
    Except McpsError VerifiedRequest × RefCell σ :=
  if replay.borrowed then (.error .replayCacheUnavailable, replay)
  else
    let (result, content) := verifyRequestDispatch requestBytes proxy.resolver replay.content
      proxy.config now proxy.versionPolicy
    (result, { replay with content })

/-- Answer bytes, or an error object for an error; a panic goes through. -/
def answer (idValue : Value) : Except Stop Bytes → Except Panic Bytes
  | .ok bytes => .ok bytes
  | .error (.error error) => .ok (jsonRpcErrorObject error idValue)
  | .error (.panic cause) => .error cause

/-- The id of a request, null if it has none. -/
def requestId (requestBytes : Bytes) : Value :=
  ((Crates.fromSlice requestBytes).bind fun value => value.val.get "id").getD .null

/-- Handle one inbound request. -/
def handleWithTransport (proxy : Proxy) (replay : RefCell σ) (requestBytes : Bytes) (now : Int)
    (transportIdentity : Option TransportIdentity) (header : Option String) : Handled σ :=
  let parsed := Crates.fromSlice requestBytes
  let idValue := requestId requestBytes
  match proxy.verifyInbound replay requestBytes now with
  | (.error error, replay) => ⟨.ok (jsonRpcErrorObject error idValue), replay, []⟩
  | (.ok verified, replay) =>
    match proxy.checkGates parsed verified now transportIdentity header idValue with
    | .error refusal => ⟨.ok refusal, replay, []⟩
    | .ok () =>
      let (result, effects) := proxy.dispatchAndSign requestBytes verified now idValue
      ⟨answer idValue result, replay, effects⟩

/-- Handle a request of a channel without identity. -/
def handle (proxy : Proxy) (replay : RefCell σ) (requestBytes : Bytes) (now : Int) : Handled σ :=
  proxy.handleWithTransport replay requestBytes now none none

end Proxy

end Mcps
