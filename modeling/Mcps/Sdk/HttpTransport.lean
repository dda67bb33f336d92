import Mcps.Sdk.Streamable

/-!
# The request/response transport of the Python SDK

`roundTrip` signs a request of the session, posts it, and sends the session what
verification makes of the answer; at the end it takes its own request out of the
correlation store.  It runs as one of several tasks: while it waits for the answer, or for
the session to take a message, the others may do anything to the store.

A request is settled if exactly one message with its id reaches the session, a response or
an error, and nothing is outstanding under its id.  This fails where signing or posting
raises, because neither is inside the `try`, and where an event stream holds more than
one payload that does not pass through: each is answered under the id.
-/

namespace Mcps.Sdk

open ClientCore List

/-- The JSON-RPC code of a rejection. -/
def mcpsRejectedCode : Int := -32099

/-- The error a rejected response is delivered as. -/
def rejectMessage (rid : PyValue) (reason : String) : SessionMessage :=
  ⟨.object [
    ("error", .object [("code", .number (.int mcpsRejectedCode)),
      ("message", .string (if reason = "" then "mcps.verification_failed" else reason))]),
    ("id", rid), ("jsonrpc", .string "2.0")]⟩

/-- What the session is sent for one outcome. -/
def outcomeMessage (rid : PyValue) : InboundOutcome → SessionMessage
  | .accept message | .passthrough message => message
  | .reject reason => rejectMessage rid reason

/-- What the session is sent for a body; an exception and an empty body are rejected. -/
def bodyMessages (rid : PyValue) :
    Except PyException (List InboundOutcome) → List SessionMessage
  | .error _ | .ok [] => [rejectMessage rid "mcps.missing_envelope"]
  | .ok outcomes => outcomes.map (outcomeMessage rid)

/-- The transport: one post answers a signed request with a content type and a body, or
raises an exception of its own. -/
structure McpsHttpTransport (ε : Type) where
  post : Bytes → Except ε (Option String × Bytes)
  config : McpsConfig
  ttlSeconds : Int

/-- What the other tasks do to the correlation store while this one waits. -/
structure Meanwhile where
  posting : CorrelationStore → CorrelationStore
  sending : CorrelationStore → CorrelationStore

def Meanwhile.idle : Meanwhile := ⟨id, id⟩

/-- An exception that ends the task. -/
inductive Raised (ε : Type) where
  | signing (exception : PyException)
  | posting (exception : ε)
  deriving DecidableEq

/-- A finished task: the messages it sent to the session, in order, the store it leaves and
the exception it ended with. -/
structure RoundTrip (ε : Type) where
  sent : List SessionMessage
  correlation : CorrelationStore
  raised : Option (Raised ε)
  deriving DecidableEq

/-- One request of the session: its message, the times it is signed and answered at, and
its nonce. -/
structure Call where
  message : SessionMessage
  nowUnix : Int
  answeredUnix : Int
  nonce : String

/-! ## Messages for one request -/

/-- A message carries an id. -/
def SessionMessage.carries (rid : PyValue) (message : SessionMessage) : Bool :=
  message.root.get "id" = some rid

variable (rid : PyValue) (reason : String)

section

variable [Python] {config : McpsConfig}

/-- What becomes of a payload, whatever is outstanding. -/
inductive Fate where
  | raises
  | passes (message : SessionMessage)
  | answered
  deriving DecidableEq

/-- A message that passes through carries an id. -/
def Fate.carries (rid : PyValue) : Fate → Bool
  | .passes message => message.carries rid
  | .raises | .answered => false

variable {rid : PyValue} {payload : Bytes}

variable {fates : List Fate} {messages : List SessionMessage}

end

section

variable [Crates] [Python] {config : McpsConfig} {rid : PyValue} {payload : Bytes}
  {correlation : CorrelationStore}

end

section

variable [Crates] [Python] {ε : Type}

/-- Sign and register the request of a call. -/
def McpsHttpTransport.sign (transport : McpsHttpTransport ε) (correlation : CorrelationStore)
    (call : Call) : Except PyException Bytes × CorrelationStore :=
  signOutbound transport.config correlation call.message call.nowUnix call.nonce
    (call.nowUnix + transport.ttlSeconds)

/-- One signed post for one request of the session. -/
def McpsHttpTransport.roundTrip (transport : McpsHttpTransport ε) (meanwhile : Meanwhile)
    (correlation : CorrelationStore) (call : Call) (rid : PyValue) : RoundTrip ε :=
  match transport.sign correlation call with
  | (.error exception, correlation) => ⟨[], correlation, some (.signing exception)⟩
  | (.ok wire, correlation) =>
    match transport.post wire with
    | .error exception => ⟨[], meanwhile.posting correlation, some (.posting exception)⟩
    | .ok (contentType, body) =>
      let (verified, correlation) := verifyInboundMessages contentType body transport.config
        (meanwhile.posting correlation) call.answeredUnix
      ⟨bodyMessages rid verified, ((meanwhile.sending correlation).cancel (str rid)).2, none⟩

/-! ## Settled requests -/

variable (transport : McpsHttpTransport ε) (meanwhile : Meanwhile)
  (correlation : CorrelationStore) (call : Call) (rid : PyValue)

/-- A task ends in an exception of the signing or of the post and has sent nothing, or sends
what the answer of the post verifies as and cancels its request. -/
theorem roundTrip_cases :
    (∃ exception, (transport.sign correlation call).1 = .error exception ∧
      transport.roundTrip meanwhile correlation call rid =
        ⟨[], (transport.sign correlation call).2, some (.signing exception)⟩) ∨
    ∃ wire, (transport.sign correlation call).1 = .ok wire ∧
      ((∃ exception, transport.post wire = .error exception ∧
          transport.roundTrip meanwhile correlation call rid =
            ⟨[], meanwhile.posting (transport.sign correlation call).2,
              some (.posting exception)⟩) ∨
        ∃ contentType body, transport.post wire = .ok (contentType, body) ∧
          transport.roundTrip meanwhile correlation call rid =
            let verified := verifyInboundMessages contentType body transport.config
              (meanwhile.posting (transport.sign correlation call).2) call.answeredUnix
            ⟨bodyMessages rid verified.1,
              ((meanwhile.sending verified.2).cancel (str rid)).2, none⟩) := by
  unfold McpsHttpTransport.roundTrip
  split
  next exception store signs => exact .inl ⟨exception, congrArg Prod.fst signs, by rw [signs]⟩
  next wire store signs =>
    refine .inr ⟨wire, congrArg Prod.fst signs, ?_⟩
    rw [signs]
    split
    next exception posts => exact .inl ⟨exception, posts, rfl⟩
    next contentType body posts => exact .inr ⟨contentType, body, posts, rfl⟩

variable {transport meanwhile correlation call rid}

end

/-- The call of the exchange. -/
def exchangeCall : Call := ⟨callMessage, 1779998400, 1779998401, "Zm9vYmFyYmF6cXV4MTIzNDU2Nzg5MA"⟩

/-- A stream with a notification of the server before its signed response. -/
def notifiedStream : Bytes :=
  textBytes "data: \x7b\"jsonrpc\":\"2.0\",\"method\":\"notifications/message\"\x7d\n\ndata: " ++
    genuineLine ++ textBytes "\n\n"

theorem sent_notified :
    letI := callCrates
    letI := callPython
    let transport : McpsHttpTransport String :=
      ⟨fun _ => .ok (some "text/event-stream", notifiedStream), callConfig, 300⟩
    (transport.roundTrip .idle .new exchangeCall (.string "req-1")).sent =
      [rejectMessage (.string "req-1") "mcps.notification_forbidden",
        ⟨stripEnvelope (.object genuineMembers)⟩] := by
  decide +kernel

section

variable [Crates] [Python] {ε : Type} {transport : McpsHttpTransport ε} {meanwhile : Meanwhile}
  {correlation : CorrelationStore} {call : Call} {rid : PyValue}

/-! ## What a strict connection delivers -/

/-- A message is a response in the answer of the post, without its envelope, that verified in
time against a request outstanding when the answer came. -/
def IsVerified (transport : McpsHttpTransport ε) (meanwhile : Meanwhile)
    (correlation : CorrelationStore) (call : Call) (message : SessionMessage) : Prop :=
  ∃ wire contentType body payloads line members id entry verified,
    (transport.sign correlation call).1 = .ok wire ∧
    transport.post wire = .ok (contentType, body) ∧
    decodeInbound contentType body = .ok payloads ∧ line ∈ payloads ∧
    (loads line).bind dictMembers = .ok members ∧ Assoc.find? "id" members = some id ∧
    (str id, entry) ∈ (meanwhile.posting (transport.sign correlation call).2).pending ∧
    call.answeredUnix ≤ entry.deadlineUnix ∧
    responseEvidence transport.config entry.requestHash line = .ok verified ∧
    message = ⟨stripEnvelope (.object members)⟩

theorem mem_bodyMessages {contentType : Option String} {body : Bytes} {config : McpsConfig}
    {nowUnix : Int} {message : SessionMessage} (sent : message ∈ bodyMessages rid
      (verifyInboundMessages contentType body config correlation nowUnix).1) :
    (∃ reason, message = rejectMessage rid reason) ∨
      ∃ payloads line outcome, ∃ store : CorrelationStore,
        decodeInbound contentType body = .ok payloads ∧ line ∈ payloads ∧
        store.pending.Sublist correlation.pending ∧
        (verifyInbound config store line nowUnix).1 = .ok outcome ∧
        message = outcomeMessage rid outcome := by
  unfold verifyInboundMessages at sent
  split at sent
  next => exact .inl ⟨_, mem_singleton.mp sent⟩
  next payloads decodes =>
    rcases verifyPayloads_cases config nowUnix correlation payloads with
      ⟨outcomes, made, pairs⟩ | ⟨_, made, _⟩
    all_goals rw [made] at sent
    · cases outcomes with
      | nil => exact .inl ⟨_, mem_singleton.mp sent⟩
      | cons first others =>
        obtain ⟨outcome, member, rfl⟩ := mem_map.mp sent
        obtain ⟨line, held, store, shrinks, made⟩ := Json.exists_of_mem_forall₂ pairs.flip member
        rcases (verifyPayload_cases config store line nowUnix).2 with same | rejected
        · exact .inr ⟨payloads, line, outcome, store, decodes, (mem_filter.mp held).1, shrinks,
            same.symm.trans made, rfl⟩
        · cases rejected.symm.trans made
          exact .inl ⟨_, rfl⟩
    · exact .inl ⟨_, mem_singleton.mp sent⟩

/-- What a strict connection that lets nothing pass through sends to the session is a verified
response to an outstanding request, or the error of the request. -/
theorem sent_verified (strict : transport.config.enforcementMode = "require_mcps")
    (closed : transport.config.allowUnverifiedServerInitiated = false) :
    ∀ message ∈ (transport.roundTrip meanwhile correlation call rid).sent,
      IsVerified transport meanwhile correlation call message ∨
        ∃ reason, message = rejectMessage rid reason := by
  intro message sent
  rcases roundTrip_cases transport meanwhile correlation call rid with
    ⟨_, _, trip⟩ | ⟨wire, signs, ⟨_, _, trip⟩ | ⟨contentType, body, posts, trip⟩⟩
  · rw [trip] at sent
    cases sent
  · rw [trip] at sent
    cases sent
  rw [trip] at sent
  obtain rejected | ⟨payloads, line, outcome, store, decodes, inside, shrinks, made, rfl⟩ :=
    mem_bodyMessages sent
  · exact .inr rejected
  rcases verifyInbound_eq_ok made with ⟨reason, rfl⟩ | ⟨allowed, _⟩ |
    ⟨_, members, id, entry, rfl, read, named, ⟨found, inTime⟩, delivered⟩
  · exact .inr ⟨reason, rfl⟩
  · rw [allowed] at closed
    cases closed
  · rcases deliver_eq_accept delivered with ⟨⟨evidence, verifies⟩, stripped⟩ | ⟨absent, _⟩
    · exact .inl ⟨wire, contentType, body, payloads, line, members, id, entry, evidence, signs,
        posts, decodes, inside, read, named, shrinks.mem (Assoc.mem_of_find? found), inTime,
        verifies, stripped⟩
    · rw [deliver, verifyResponse, absent, strict] at delivered
      cases delivered

end

/-- The stream with a notification gives the session an error and a verified response. -/
theorem sent_verified_notified :
    letI := callCrates
    letI := callPython
    let transport : McpsHttpTransport String :=
      ⟨fun _ => .ok (some "text/event-stream", notifiedStream), callConfig, 300⟩
    let trip := transport.roundTrip .idle .new exchangeCall (.string "req-1")
    trip.sent.length = 2 ∧ ∀ message ∈ trip.sent,
      IsVerified transport .idle .new exchangeCall message ∨
        ∃ reason, message = rejectMessage (.string "req-1") reason := by
  let crates := callCrates
  let python := callPython
  intro transport trip
  exact ⟨congrArg length sent_notified, @sent_verified crates python _ transport .idle .new exchangeCall
    (.string "req-1") rfl rfl⟩

/-! ## Runs of requests -/

section

variable [Crates] [Python] {ε : Type}

theorem sign_cases (transport : McpsHttpTransport ε) (correlation : CorrelationStore) {call : Call}
    {request : OutboundRequest} (asked : requestFields call.message = some request) :
    (∃ exception, transport.sign correlation call = (.error exception, correlation)) ∨
      ∃ wire entry, Assoc.find? (str request.id) correlation.pending = none ∧
        entry.correlationId = str request.id ∧
        transport.sign correlation call = (.ok wire, correlation.entered entry) := by
  rw [McpsHttpTransport.sign, signOutbound, asked]
  dsimp only
  split
  next exception _ => exact .inl ⟨exception, rfl⟩
  next signed _ =>
    rcases correlation.register_cases (pendingRequest transport.config request signed call.nonce
      (call.nowUnix + transport.ttlSeconds)) call.nowUnix with
      ⟨error, refused⟩ | ⟨absent, _, entered⟩
    · rw [refused]
      exact .inl ⟨.valueError, rfl⟩
    · rw [entered]
      exact .inr ⟨signed.wireBytes, _, absent, rfl, rfl⟩

/-- What the tasks of a connection do to the store they share, each without a pause: sign a
request of the session, verify the answer of a post, cancel the request of a task at its end. -/
inductive Moment where
  | signs (call : { call : Call // (requestFields call.message).isSome })
  | verifies (contentType : Option String) (body : Bytes) (nowUnix : Int)
  | cancels (rid : PyValue)

def McpsHttpTransport.moment (transport : McpsHttpTransport ε) (correlation : CorrelationStore) :
    Moment → CorrelationStore
  | .signs call => (transport.sign correlation call).2
  | .verifies contentType body nowUnix =>
    (verifyInboundMessages contentType body transport.config correlation nowUnix).2
  | .cancels rid => (correlation.cancel (str rid)).2

/-- A request with this text of its id was signed, and none has been cancelled since. -/
def InFlight (transport : McpsHttpTransport ε) (moments : List Moment) (id : String) : Prop :=
  ∃ before call request wire after, moments = before ++ .signs call :: after ∧
    requestFields call.val.message = some request ∧ str request.id = id ∧
    (transport.sign (before.foldl transport.moment .new) call.val).1 = .ok wire ∧
    ∀ rid, .cancels rid ∈ after → str rid ≠ id

theorem InFlight.concat {transport : McpsHttpTransport ε} {moments : List Moment}
    {moment : Moment} {id : String} (inFlight : InFlight transport moments id)
    (other : ∀ rid, moment = .cancels rid → str rid ≠ id) :
    InFlight transport (moments ++ [moment]) id := by
  obtain ⟨before, call, request, wire, after, rfl, asked, named, signs, running⟩ := inFlight
  refine ⟨before, call, request, wire, after ++ [moment], by simp, asked, named, signs, ?_⟩
  intro rid member
  rcases mem_append.mp member with earlier | last
  · exact running rid earlier
  · exact other rid (mem_singleton.mp last).symm

/-- Whatever a task does, what is outstanding then is in flight. -/
theorem inFlight_moment {transport : McpsHttpTransport ε} {moments : List Moment}
    (known : ∀ id ∈ (moments.foldl transport.moment .new).pending.map Prod.fst,
      InFlight transport moments id) (moment : Moment) :
    ∀ id ∈ (transport.moment (moments.foldl transport.moment .new) moment).pending.map Prod.fst,
      InFlight transport (moments ++ [moment]) id := by
  intro id held
  cases moment with
  | signs call =>
    obtain ⟨request, asked⟩ := Option.isSome_iff_exists.mp call.property
    rcases sign_cases transport (moments.foldl transport.moment .new) asked with
      ⟨_, refused⟩ | ⟨wire, entry, _, named, entered⟩
    · rw [McpsHttpTransport.moment, refused] at held
      exact (known id held).concat nofun
    · rw [McpsHttpTransport.moment, entered] at held
      rcases mem_cons.mp held with rfl | earlier
      · exact ⟨moments, call, request, wire, [], rfl, asked, named.symm, by rw [entered], by simp⟩
      · exact (known id earlier).concat nofun
  | verifies contentType body nowUnix =>
    have kept := pending_verifyInboundMessages_sublist contentType body transport.config
      (moments.foldl transport.moment .new) nowUnix
    exact (known id ((kept.map Prod.fst).mem held)).concat nofun
  | cancels rid =>
    obtain ⟨entry, left, rfl⟩ := mem_map.mp held
    obtain ⟨member, apart⟩ := mem_filter.mp left
    apply (known _ (mem_map_of_mem member)).concat
    rintro _ ⟨⟩ same
    simp [same] at apart

/-- However the tasks of a connection take turns, what is outstanding was signed and has not
been cancelled since, and verifying an answer adds nothing to it. -/
theorem inFlight_of_outstanding (transport : McpsHttpTransport ε) (moments : List Moment) :
    (∀ id ∈ (moments.foldl transport.moment .new).pending.map Prod.fst,
      InFlight transport moments id) ∧
    ∀ contentType body nowUnix,
      (transport.moment (moments.foldl transport.moment .new)
          (.verifies contentType body nowUnix)).pending.Sublist
        (moments.foldl transport.moment .new).pending := by
  refine ⟨?_, fun contentType body nowUnix =>
    pending_verifyInboundMessages_sublist contentType body transport.config _ nowUnix⟩
  induction moments using List.reverseRecOn with
  | nil => simp [CorrelationStore.new]
  | append_singleton moments moment ih =>
    rw [foldl_append]
    exact inFlight_moment ih moment

end

/-- The request of the exchange is outstanding once it is signed, and in flight. -/
theorem inFlight_of_outstanding_signed :
    letI := callCrates
    letI := callPython
    let transport : McpsHttpTransport String := ⟨fun _ => .error "refused", callConfig, 300⟩
    let moments : List Moment :=
      [.signs ⟨exchangeCall, rfl⟩, .verifies none [] 1779998401, .cancels (.string "req-2")]
    "req-1" ∈ (moments.foldl transport.moment .new).pending.map Prod.fst ∧
      InFlight transport moments "req-1" := by
  let crates := callCrates
  let python := callPython
  intro transport moments
  have outstanding : "req-1" ∈ (moments.foldl transport.moment .new).pending.map Prod.fst := by
    decide +kernel
  exact ⟨outstanding, (inFlight_of_outstanding transport moments).1 "req-1" outstanding⟩

/-- A request whose post raised blocks its id: no later request with the text of the id is
signed, at any time. -/
theorem sign_blocked_of_raised [Crates] [Python] {ε : Type} {transport : McpsHttpTransport ε}
    {meanwhile : Meanwhile} {correlation : CorrelationStore} {call laterCall : Call} {wire : Bytes}
    {request later : OutboundRequest} {exception : ε}
    (asked : requestFields call.message = some request)
    (signs : (transport.sign correlation call).1 = .ok wire)
    (raises : transport.post wire = .error exception)
    (askedLater : requestFields laterCall.message = some later)
    (same : str later.id = str request.id) :
    ∃ exception, (transport.roundTrip meanwhile
        (transport.roundTrip .idle correlation call request.id).correlation laterCall later.id) =
      ⟨[], (transport.roundTrip .idle correlation call request.id).correlation,
        some (.signing exception)⟩ := by
  have outstanding : Assoc.find? (str later.id)
      (transport.roundTrip .idle correlation call request.id).correlation.pending ≠ none := by
    rcases sign_cases transport correlation asked with ⟨_, refused⟩ | ⟨_, _, _, named, entered⟩
    · rw [refused] at signs
      cases signs
    · rw [entered] at signs
      cases signs
      rw [McpsHttpTransport.roundTrip, entered]
      dsimp only
      rw [raises]
      simp [Meanwhile.idle, CorrelationStore.entered, named, same]
  rcases sign_cases transport _ askedLater with ⟨exception, refused⟩ | ⟨_, _, absent, _⟩
  · refine ⟨exception, ?_⟩
    rw [McpsHttpTransport.roundTrip, refused]
  · exact absurd absent outstanding

/-- The request whose connection was refused cannot be made again. -/
theorem sign_blocked_of_raised_refused :
    letI := callCrates
    letI := callPython
    let transport : McpsHttpTransport String := ⟨fun _ => .error "refused", callConfig, 300⟩
    let left := (transport.roundTrip .idle .new exchangeCall callOutbound.id).correlation
    ∃ exception, transport.roundTrip .idle left exchangeCall callOutbound.id =
      ⟨[], left, some (.signing exception)⟩ := by
  let crates := callCrates
  let python := callPython
  intro transport left
  have signs : (transport.sign .new exchangeCall).1 = .ok callSigned.wireBytes := by
    decide +kernel
  have asked : requestFields exchangeCall.message = some callOutbound := rfl
  exact @sign_blocked_of_raised crates python _ transport .idle .new exchangeCall _ _ _ _ _ asked
    signs rfl asked rfl

end Mcps.Sdk
