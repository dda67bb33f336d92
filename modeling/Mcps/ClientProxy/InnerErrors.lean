import Mcps.ClientCore.Reference
import Mcps.ClientProxy.Handle

/-!
# What the local client is told about an inner error

A verified result carries one of three payloads: an object, a wrapped value, or a wrapped
error of the inner server.  The client proxy renders all three as the `result` of its
plain response, so that it is faithful to the first two only.
-/

namespace Mcps.ClientProxy

open ClientCore Except

/-! ## An exchange to evaluate -/

/-- A call of a tool through the route `tools`. -/
def plainCall : Value :=
  .object [("id", .string "req-1"), ("jsonrpc", .string "2.0"), ("method", .string "tools/call"),
    ("params", .object [("arguments", .object [("text", .string "hello")]),
      ("name", .string "echo")])]

def toolsRoute : Route where
  routeId := "tools"
  enforcementMode := .requireMcps
  legacyAllowed := false
  signerAudience := ⟨"did:example:server-1", toolsAudience⟩
  authzPolicy := .bothBaseForms
  authzProvider _ := .ok callBinding

def callParams : CallParams where
  onBehalfOf := "did:example:user-1"
  nonce := "Zm9vYmFyYmF6cXV4MTIzNDU2Nzg5MA"
  issuedAt := "2026-05-28T20:00:00Z"
  expiresAt := "2026-05-28T20:05:00Z"
  nowUnix := 1779998400
  deadlineUnix := 1779998700

/-- A production client in front of a remote end that always sends one reply. -/
def callingProxy (reply : Bytes) : ClientProxy where
  registry := RouteRegistry.register ⟨[]⟩ toolsRoute
  signer := agentSigner
  signerPolicy := agentPolicy
  trustResolver := remoteResolver
  transport _ := .ok reply

/-- The plain response to the call with a payload as its result. -/
def plainSuccess (payload : Value) : ProxyResponse :=
  ⟨.object [("id", .string "req-1"), ("jsonrpc", .string "2.0"), ("result", payload)],
    ⟨.mcpsVerified, .accepted, none, none⟩, .mcpsVerified⟩

theorem handle_callingProxy_error :
    letI := callCrates
    ((callingProxy (replyWith errorMember errorSignature)).handle .new "tools" plainCall
      callParams).outcome = .ok (plainSuccess errorMember.2) := by
  decide +kernel

theorem handle_callingProxy_success :
    letI := callCrates
    ((callingProxy (replyWith successMember successSignature)).handle .new "tools" plainCall
      callParams).outcome = .ok (plainSuccess (.object [successMember])) := by
  decide +kernel

/-! ## Surfacing an outcome -/

/-- The `result` member of a response. -/
def verifiedResult [Crates] (responseBytes : Bytes) : Option Value :=
  (Crates.fromSlice responseBytes).bind fun object => object.val.get "result"

/-- A plain response that is an error for an inner error and otherwise a success with the
payload. -/
def SurfacesOutcome (plainResponse : Value) : UnwrappedResult → Prop
  | .innerError _ =>
    (plainResponse.get "error").isSome ∧ plainResponse.get "result" = none
  | .object payload | .scalar payload =>
    plainResponse.get "result" = some payload ∧ plainResponse.get "error" = none

/-- A response whose result has, beside `_meta`, the one member `inner_error`. -/
def CarriesInnerError [Crates] (responseBytes : Bytes) : Prop :=
  ∃ members error, verifiedResult responseBytes = some (.object members) ∧
    Assoc.erase "_meta" members = [(responseWrapInnerErrorKey, error)]

section

variable [Crates]

omit [Crates] in
theorem unwrapPayload_eq_innerError {members : List (String × Value)} {error : Value} :
    unwrapPayload members = .innerError error ↔ members = [(responseWrapInnerErrorKey, error)] := by
  constructor
  · intro unwraps
    unfold unwrapPayload at unwraps
    split at unwraps
    next key value =>
      split at unwraps
      next => cases unwraps
      next =>
        split at unwraps
        next wrapped =>
          cases unwraps
          rw [wrapped]
        next => cases unwraps
    next => cases unwraps
  · rintro rfl
    rfl

theorem plainResponseFromVerified_eq_ok {id plain : Value} {responseBytes : Bytes}
    (rebuilt : plainResponseFromVerified id responseBytes = .ok plain) :
    ∃ members, verifiedResult responseBytes = some (.object members) ∧
      plain = .object [("id", id), ("jsonrpc", .string "2.0"),
        ("result", (unwrapPayload (Assoc.erase "_meta" members)).intoValue)] := by
  simp only [plainResponseFromVerified, bind_eq_ok] at rebuilt
  obtain ⟨object, parsed, result, found, _, unwraps, rebuilt⟩ := rebuilt
  have located : verifiedResult responseBytes = some result := by
    rw [verifiedResult, Option.okOr_eq_ok.mp parsed]
    exact Option.okOr_eq_ok.mp found
  cases result with
  | object members =>
    cases mapError_eq_ok.mp unwraps
    cases rebuilt
    exact ⟨members, located, rfl⟩
  | _ => cases mapError_eq_ok.mp unwraps

theorem handle_eq_ok {proxy : ClientProxy} {correlation : CorrelationStore} {routeId : String}
    {plainRequest : Value} {params : CallParams} {response : ProxyResponse}
    (handled : (proxy.handle correlation routeId plainRequest params).outcome = .ok response) :
    ∃ exchange reply, proxy.sign routeId plainRequest params = .ok exchange ∧
      proxy.transport exchange.signed.wireBytes = .ok reply ∧
      proxy.conclude exchange reply = .ok response := by
  rcases proxy.handle_cases correlation routeId plainRequest params with
    ⟨_, refused⟩ | ⟨exchange, signs, _, _, concludes⟩
  · rw [refused] at handled
    cases handled
  · obtain ⟨reply, answered, _, concluded⟩ := concludes response handled
    exact ⟨exchange, reply, signs, answered, concluded⟩

theorem conclude_eq_ok {proxy : ClientProxy} {exchange : Exchange} {reply : Bytes}
    {response : ProxyResponse} (concluded : proxy.conclude exchange reply = .ok response)
    (path : response.path = .mcpsVerified) :
    (∃ verified, proxy.evidence exchange reply = .ok verified) ∧
      plainResponseFromVerified exchange.id reply = .ok response.plainResponse := by
  unfold conclude at concluded
  dsimp only at concluded
  split at concluded
  next accepted =>
    obtain ⟨plain, rebuilt, ends⟩ := bind_eq_ok.mp concluded
    cases ends
    exact ⟨decide_classifyResponseResult_eq_acceptMcps.mp accepted, rebuilt⟩
  next =>
    obtain ⟨plain, _, ends⟩ := bind_eq_ok.mp concluded
    cases ends
    cases path
  next => cases concluded

/-- On the verified path the client is told the inner server's outcome exactly if the
remote response does not carry an inner error. -/
theorem handle_surfaces_iff (proxy : ClientProxy) (correlation : CorrelationStore)
    (routeId : String) (plainRequest : Value) (params : CallParams) (reply : Bytes)
    (response : ProxyResponse) (replies : ∀ request, proxy.transport request = .ok reply)
    (handled : (proxy.handle correlation routeId plainRequest params).outcome = .ok response)
    (path : response.path = .mcpsVerified) :
    (∃ result unwrapped, verifiedResult reply = some result ∧
        unwrapVerifiedResult result = .ok unwrapped ∧
        SurfacesOutcome response.plainResponse unwrapped) ↔
      ¬ CarriesInnerError reply := by
  rcases handle_eq_ok handled with ⟨exchange, answer, _, answered, concluded⟩
  rw [replies] at answered
  cases answered
  rcases conclude_eq_ok concluded path with ⟨_, rebuilt⟩
  rcases plainResponseFromVerified_eq_ok rebuilt with ⟨members, located, plain⟩
  constructor
  · rintro ⟨result, unwrapped, found, unwraps, surfaces⟩ ⟨others, error, same, carries⟩
    cases located.symm.trans found
    cases located.symm.trans same
    cases unwraps
    rw [unwrapPayload_eq_innerError.mpr carries, plain] at surfaces
    cases surfaces.2
  · intro carriesNone
    refine ⟨_, _, located, rfl, ?_⟩
    rw [plain]
    cases payload : unwrapPayload (Assoc.erase "_meta" members) with
    | object _ | scalar _ => exact ⟨rfl, rfl⟩
    | innerError error =>
      exact absurd ⟨members, error, located, unwrapPayload_eq_innerError.mp payload⟩ carriesNone

end

/-- The response to the call with a payload is surfaced. -/
theorem handle_surfaces_success :
    letI := callCrates
    let reply := replyWith successMember successSignature
    let response := plainSuccess (.object [successMember])
    ((callingProxy reply).handle .new "tools" plainCall callParams).outcome = .ok response ∧
      ((∃ result unwrapped, verifiedResult reply = some result ∧
          unwrapVerifiedResult result = .ok unwrapped ∧
          SurfacesOutcome response.plainResponse unwrapped) ↔
        ¬ CarriesInnerError reply) := by
  let crates := callCrates
  exact ⟨handle_callingProxy_success, handle_surfaces_iff _ .new "tools" plainCall callParams _ _
    (fun _ => rfl) handle_callingProxy_success rfl⟩

/-- The failed tool's error is answered as a success. -/
theorem handle_renders_error_as_result :
    letI := callCrates
    let reply := replyWith errorMember errorSignature
    let response := plainSuccess errorMember.2
    ((callingProxy reply).handle .new "tools" plainCall callParams).outcome = .ok response ∧
      (verifiedResult reply).map unwrapVerifiedResult = some (.ok (.innerError errorMember.2)) ∧
      response.plainResponse.get "result" = some errorMember.2 ∧
      response.plainResponse.get "error" = none := by
  let crates := callCrates
  refine ⟨handle_callingProxy_error, ?_, rfl, rfl⟩
  decide +kernel

end Mcps.ClientProxy
