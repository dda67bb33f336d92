import Mcps.Core.Reference
import Mcps.Lib.LineReader
import Mcps.Lib.Transition
import Mcps.Proxy.Transport

/-!
# The long-lived inner server

One inner process answers every request of a proxy over one pair of pipes.  A request is
written as one line, and lines are read until one carries the id of the request; an inner
failure poisons the session, which never touches the process again.

Only the id of a line is compared.  A request of the inner server's own that happens to
carry the id is taken for the response, and the response stays in the pipe.
-/

namespace Mcps.Proxy.PersistentInner

open LineReader List

/-! ## Lines of the inner server -/

def protocolVersion : String := "2025-06-18"

def packageVersion : String := "0.7.0"

def maxInnerLineBytes : Nat := 1048576

def maxSkippedLines : Nat := 64

/-- `String::from_utf8_lossy`, which decodes what is UTF-8 as it is. -/
structure Utf8Lossy where
  decode : Bytes → List Char
  lossless : ∀ text, decode (encodeUtf8 text) = text

theorem trim_newline (text : List Char) : trim (text ++ ['\n']) = trim text := by
  obtain ⟨left, right, split, leading, trailing⟩ := trim_split text
  have blank : ∀ c ∈ right ++ ['\n'], isWhitespace c = true := by
    simpa [or_imp, forall_and] using ⟨trailing, rfl⟩
  have trimmed := trim_append (bare_trim text) leading blank
  rwa [← append_assoc, ← split] at trimmed

/-- The texts of a failed read. -/
def readErrorText (readTimeout : String) : ReadError → String
  | .overlong => "inner stdout line exceeded 1048576 bytes (unbounded-line flood)"
  | .timedOut => "inner stdout read exceeded " ++ readTimeout ++ " (silent or hung inner)"
  | .failed detail => detail

section

variable [Crates]

/-- A message's id is the one that is asked for; a null id asks for any. -/
def carriesId (wantId : Value) (value : MapValue) : Bool :=
  wantId = .null || SameValue ((value.val.get "id").getD .null) wantId

/-- Read lines until one carries the id, not more than a number of them. -/
def readMatching (lossy : Utf8Lossy) (readTimeout : String) (wantId : Value) :
    Nat → Source → List Wait → Except String Bytes × Source
  | 0, source, _ =>
    (.error "inner produced no response with the matching id within the line bound", source)
  | more + 1, source, waits =>
    let read := readLine maxInnerLineBytes [] source waits
    match read.outcome with
    | .error error => (.error (readErrorText readTimeout error), read.source)
    | .ok .eof =>
      (.error "inner closed stdout (crash mid-session?) before responding", read.source)
    | .ok (.line bytes) =>
      let line := trim (lossy.decode bytes)
      if line = [] then readMatching lossy readTimeout wantId more read.source read.waits
      else
        match Crates.fromSlice (encodeUtf8 line) with
        | none => (.error "inner stdout line is not valid JSON", read.source)
        | some value =>
          if carriesId wantId value then (.ok (encodeUtf8 line), read.source)
          else readMatching lossy readTimeout wantId more read.source read.waits

/-! ## The session -/

/-- How the clock and the pipes behave during one exchange, and what the inner server writes
once it has its request. -/
structure Channel where
  writeDeadlineFits : Bool
  frame : Except String Unit
  frameEnd : Except String Unit
  flush : Except String Unit
  readDeadlineFits : Bool
  output : Bytes
  waits : List Wait

structure Session where
  stdout : Source
  nextId : Int
  poisoned : Bool
  readTimeout : String
  deriving DecidableEq, Repr

/-- The end of an exchange, with what was written to the inner server. -/
structure Exchanged where
  outcome : Except String Bytes
  session : Session
  written : List Bytes

def writeLineReadMatching (lossy : Utf8Lossy) (session : Session) (request : Bytes)
    (wantId : Value) (channel : Channel) : Exchanged :=
  if newline ∈ request then
    ⟨.error "request frame contained an embedded newline", session, []⟩
  else if !channel.writeDeadlineFits then
    ⟨.error "inner write deadline overflow (timeout too large)", session, []⟩
  else
    match channel.frame with
    | .error error => ⟨.error ("write to inner stdin: " ++ error), session, [request]⟩
    | .ok () =>
      let written := [request, [newline]]
      match channel.frameEnd with
      | .error error => ⟨.error ("write newline to inner stdin: " ++ error), session, written⟩
      | .ok () =>
        match channel.flush with
        | .error error => ⟨.error ("flush inner stdin: " ++ error), session, written⟩
        | .ok () =>
          let stdout := { session.stdout with pipe := session.stdout.pipe ++ channel.output }
          if !channel.readDeadlineFits then
            ⟨.error "inner read deadline overflow (timeout too large)",
              { session with stdout }, written⟩
          else
            let (outcome, stdout) := readMatching lossy session.readTimeout wantId
              (maxSkippedLines + 1) stdout channel.waits
            ⟨outcome, { session with stdout }, written⟩

/-- The JSON-RPC id of a request, null if there is none. -/
def requestId (request : Bytes) : Value :=
  ((Crates.fromSlice request).bind fun value => value.val.get "id").getD .null

/-- Forward one request.  A session that has failed before is left alone, and one that fails
now is poisoned. -/
def dispatch (lossy : Utf8Lossy) (session : Session) (request : Bytes) (channel : Channel) :
    Exchanged :=
  if session.poisoned then ⟨.error "inner session previously failed", session, []⟩
  else
    let exchanged := writeLineReadMatching lossy session request (requestId request) channel
    match exchanged.outcome with
    | .ok response => ⟨.ok response, exchanged.session, exchanged.written⟩
    | .error error =>
      ⟨.error error, { exchanged.session with poisoned := true }, exchanged.written⟩

/-- The JSON-RPC error that a failure is answered with. -/
def failClosed (detail : String) : Bytes :=
  (Crates.toVec (.object [
    ("error", .object [("code", .number (numberOfInteger (-32603))), ("data", .string detail),
      ("message", .string "inner server unavailable")]),
    ("id", .null), ("jsonrpc", .string "2.0")])).getD []

/-- The bytes the caller gets. -/
def Exchanged.response (exchanged : Exchanged) : Bytes :=
  match exchanged.outcome with
  | .ok response => response
  | .error detail => failClosed detail

def initializeRequest (id : Value) : Value :=
  .object [("id", id), ("jsonrpc", .string "2.0"), ("method", .string "initialize"),
    ("params", .object [
      ("capabilities", .object []),
      ("clientInfo", .object [
        ("name", .string "mcps-proxy"), ("version", .string packageVersion)]),
      ("protocolVersion", .string protocolVersion)])]

/-- The `initialize` handshake of one request; of the result only that there is one matters.
The text of a failed serialisation is the crate's own. -/
def handshake (lossy : Utf8Lossy) (session : Session) (channel : Channel) :
    Except String Session := do
  let id : Value := .number (numberOfInteger session.nextId)
  let session := { session with nextId := session.nextId + 1 }
  let bytes ← (Crates.toVec (initializeRequest id)).okOr "serde_json"
  let exchanged := writeLineReadMatching lossy session bytes id channel
  let response ← exchanged.outcome
  let value ← (Crates.fromSlice response).okOr "initialize response was not JSON"
  match value.val.get "error" with
  | some error => throw ("inner rejected initialize: " ++ Crates.valueToString error)
  | none =>
    if (value.val.get "result").isNone then throw "initialize response carried no result"
    else return exchanged.session

/-- A session with a process that has just been spawned. -/
def Session.spawned (readTimeout : String) : Session := ⟨⟨[], []⟩, 1, false, readTimeout⟩

def new (lossy : Utf8Lossy) (readTimeout : String) (channel : Channel) : Except String Session :=
  (handshake lossy (Session.spawned readTimeout) channel).mapError
    ("persistent inner: initialize handshake failed: " ++ ·)

end

/-! ## What is read -/

/-- A line that an inner server writes. -/
structure InnerLine where
  text : List Char
  unbroken : '\n' ∉ text
  nonblank : trim text ≠ []

/-- The line in the pipe. -/
def InnerLine.bytes (line : InnerLine) : Bytes := encodeUtf8 line.text ++ [newline]

/-- The line as it is returned to the caller. -/
def InnerLine.returned (line : InnerLine) : Bytes := encodeUtf8 (trim line.text)

def linesBytes (ahead : List InnerLine) : Bytes := ahead.flatMap InnerLine.bytes

@[simp] theorem linesBytes_nil : linesBytes [] = [] := rfl

@[simp] theorem linesBytes_cons (line : InnerLine) (ahead : List InnerLine) :
    linesBytes (line :: ahead) = encodeUtf8 line.text ++ newline :: linesBytes ahead := by
  simp [linesBytes, InnerLine.bytes]

@[simp] theorem linesBytes_append (first second : List InnerLine) :
    linesBytes (first ++ second) = linesBytes first ++ linesBytes second :=
  flatMap_append

theorem lines_linesBytes (ahead : List InnerLine) :
    lines (linesBytes ahead) = ahead.map fun line => encodeUtf8 line.text := by
  induction ahead with
  | nil => rfl
  | cons line ahead ih =>
    rw [linesBytes_cons, lines_append (newline_notMem_encodeUtf8 line.unbroken), ih]
    rfl

theorem Utf8Lossy.trim_decode (lossy : Utf8Lossy) (text : List Char) :
    trim (lossy.decode (encodeUtf8 text ++ [newline])) = trim text := by
  have ends : encodeUtf8 text ++ [newline] = encodeUtf8 (text ++ ['\n']) := by
    rw [encodeUtf8_append]
    rfl
  rw [ends, lossy.lossless, trim_newline]

section

variable [Crates]

def InnerLine.value (line : InnerLine) : Option MapValue := Crates.fromSlice line.returned

/-- The search goes on behind the line. -/
def InnerLine.Skipped (wantId : Value) (line : InnerLine) : Prop :=
  ∃ value, line.value = some value ∧ carriesId wantId value = false

/-- The search ends at the line. -/
def InnerLine.Hit (wantId : Value) (line : InnerLine) : Prop :=
  ∃ value, line.value = some value ∧ carriesId wantId value = true

variable {lossy : Utf8Lossy} {readTimeout : String} {wantId : Value}

theorem readMatching_eq_ok {bound : Nat} {source rest : Source} {waits : List Wait}
    {ahead : List InnerLine} {response : Bytes} (unread : source.unread = linesBytes ahead)
    (found : readMatching lossy readTimeout wantId bound source waits = (.ok response, rest)) :
    ∃ before hit behind, ahead = before ++ hit :: behind ∧
      (∀ line ∈ before, line.Skipped wantId) ∧ hit.Hit wantId ∧ response = hit.returned ∧
      rest.unread = linesBytes behind := by
  induction bound generalizing source waits ahead with
  | zero => cases found
  | succ bound ih =>
    unfold readMatching at found
    cases ahead with
    | nil =>
      rcases readLine_nil maxInnerLineBytes waits unread with ⟨error, failed⟩ | ended
      · simp [failed] at found
      · simp [ended] at found
    | cons line ahead =>
      have reads := @reads_readLine maxInnerLineBytes [] _ _ source waits (by simp)
        (newline_notMem_encodeUtf8 line.unbroken) (unread.trans (linesBytes_cons line ahead))
      rcases reads with ⟨error, failed⟩ | ⟨read, left⟩
      · simp [failed] at found
      · simp only [read, lossy.trim_decode, if_neg line.nonblank] at found
        cases parsed : line.value with
        | none =>
          rw [InnerLine.value, InnerLine.returned] at parsed
          simp [parsed] at found
        | some value =>
          have inner := parsed
          rw [InnerLine.value, InnerLine.returned] at inner
          simp only [inner] at found
          cases carries : carriesId wantId value with
          | true =>
            simp only [carries] at found
            cases found
            exact ⟨[], line, ahead, rfl, nofun, ⟨value, parsed, carries⟩, rfl, left⟩
          | false =>
            simp only [carries] at found
            rcases ih left found with
              ⟨before, hit, behind, rfl, skipped, hits, returned, unread⟩
            refine ⟨line :: before, hit, behind, rfl, ?_, hits, returned, unread⟩
            exact forall_mem_cons.mpr ⟨⟨value, parsed, carries⟩, skipped⟩

/-! ## What an exchange leaves -/

theorem writeLineReadMatching_eq_ok {session : Session} {request response : Bytes}
    {channel : Channel}
    (succeeds : (writeLineReadMatching lossy session request wantId channel).outcome =
      .ok response) :
    ∃ stdout, readMatching lossy session.readTimeout wantId (maxSkippedLines + 1)
          { session.stdout with pipe := session.stdout.pipe ++ channel.output } channel.waits =
        (.ok response, stdout) ∧
      (writeLineReadMatching lossy session request wantId channel).session =
        { session with stdout } := by
  unfold writeLineReadMatching at succeeds ⊢
  split at succeeds
  · cases succeeds
  · rename_i unbroken
    split at succeeds
    · cases succeeds
    · rename_i writable
      rw [if_neg unbroken, if_neg writable]
      cases frame : channel.frame with
      | error error => simp [frame] at succeeds
      | ok =>
        cases frameEnd : channel.frameEnd with
        | error error => simp [frame, frameEnd] at succeeds
        | ok =>
          cases flush : channel.flush with
          | error error => simp [frame, frameEnd, flush] at succeeds
          | ok =>
            cases readable : channel.readDeadlineFits with
            | false => simp [frame, frameEnd, flush, readable] at succeeds
            | true =>
              simp only [frame, frameEnd, flush, readable] at succeeds ⊢
              exact ⟨_, Prod.ext succeeds rfl, rfl⟩

/-- An exchange that succeeds returns the first line with the id. -/
theorem exchange_eq_ok {session : Session} {request response : Bytes} {channel : Channel}
    {ahead wrote : List InnerLine} (unread : session.stdout.unread = linesBytes ahead)
    (output : channel.output = linesBytes wrote)
    (succeeds : (writeLineReadMatching lossy session request wantId channel).outcome =
      .ok response) :
    ∃ before hit behind, ahead ++ wrote = before ++ hit :: behind ∧
      (∀ line ∈ before, line.Skipped wantId) ∧ hit.Hit wantId ∧ response = hit.returned ∧
      (writeLineReadMatching lossy session request wantId channel).session.stdout.unread =
        linesBytes behind := by
  obtain ⟨_, found, left⟩ := writeLineReadMatching_eq_ok succeeds
  have filled : Source.unread { session.stdout with
      pipe := session.stdout.pipe ++ channel.output } = linesBytes (ahead ++ wrote) := by
    rw [linesBytes_append, ← unread, ← output, Source.unread, Source.unread, append_assoc]
  rw [left]
  exact readMatching_eq_ok filled found

/-- A session is poisoned by an exchange exactly when the exchange fails. -/
theorem dispatch_cases (session : Session) (request : Bytes) (channel : Channel) :
    session.poisoned = true ∧ dispatch lossy session request channel =
        ⟨.error "inner session previously failed", session, []⟩ ∨
      session.poisoned = false ∧
        ((∃ error, (dispatch lossy session request channel).outcome = .error error ∧
            (dispatch lossy session request channel).session.poisoned = true) ∨
          ∃ response, (writeLineReadMatching lossy session request (requestId request)
              channel).outcome = .ok response ∧
            (dispatch lossy session request channel).outcome = .ok response ∧
            (dispatch lossy session request channel).session = (writeLineReadMatching lossy
              session request (requestId request) channel).session) := by
  cases poisoned : session.poisoned with
  | true => exact .inl ⟨rfl, by rw [dispatch, if_pos poisoned]⟩
  | false =>
    refine .inr ⟨rfl, ?_⟩
    simp only [dispatch, poisoned]
    cases exchanged : (writeLineReadMatching lossy session request (requestId request)
        channel).outcome with
    | error error => exact .inl ⟨error, rfl, rfl⟩
    | ok response => exact .inr ⟨response, rfl, rfl, rfl⟩

/-! ## An inner server that answers every request -/

/-- A notification or a request of the inner server's own, as far as it is read as JSON. -/
def InnerLine.isServerMessage (line : InnerLine) : Bool :=
  line.value.all fun value => (value.val.get "method").isSome

/-- The response to the request with an id, as far as it is read as JSON. -/
def InnerLine.isResponse (wantId : Value) (line : InnerLine) : Bool :=
  line.value.all fun value =>
    (value.val.get "method").isNone && (value.val.get "id").any (SameValue · wantId)

/-- What the inner server writes on one request: the response among some messages of its
own. -/
structure InnerAnswer (wantId : Value) where
  leading : List InnerLine
  response : InnerLine
  trailing : List InnerLine
  messages : ∀ line ∈ leading ++ trailing, line.isServerMessage
  responds : response.isResponse wantId
  few : (leading ++ trailing).length < 64

def InnerAnswer.lines (answer : InnerAnswer wantId) : List InnerLine :=
  answer.leading ++ answer.response :: answer.trailing

/-- A dispatch of a request with an id, and the inner server's answer to it. -/
structure DispatchCall where
  request : Bytes
  identified : requestId request ≠ .null
  channel : Channel
  answer : InnerAnswer (requestId request)
  answered : channel.output = linesBytes answer.lines

def DispatchCall.dispatched (lossy : Utf8Lossy) (session : Session) (call : DispatchCall) :
    Exchanged :=
  dispatch lossy session call.request call.channel

def machine (lossy : Utf8Lossy) : Machine Session DispatchCall Exchanged where
  step session call := (call.dispatched lossy session, (call.dispatched lossy session).session)

/-- A dispatch that does not fail returns the line that the inner server wrote in response to
it, that very one: what is left to read is what was written behind it. -/
def ReturnsOwn (lossy : Utf8Lossy) (session : Session) (call : DispatchCall) : Prop :=
  ∀ response, (call.dispatched lossy session).outcome = .ok response →
    response = call.answer.response.returned ∧
      (call.dispatched lossy session).session.stdout.unread = linesBytes call.answer.trailing

/-- The line of an inner server has the id that is asked for. -/
def lineCarriesId (lossy : Utf8Lossy) (wantId : Value) (line : Bytes) : Bool :=
  (Crates.fromSlice (encodeUtf8 (trim (lossy.decode line)))).any (carriesId wantId)

/-- Unless the dispatch fails, no line ahead of its response, left from earlier requests or
written on this one, has the id of the request. -/
def NoClash (lossy : Utf8Lossy) (session : Session) (call : DispatchCall) : Prop :=
  (call.dispatched lossy session).outcome.isOk →
    ∀ line ∈ lines (session.stdout.unread ++ linesBytes call.answer.leading),
      lineCarriesId lossy (requestId call.request) line = false

/-- After a failed dispatch, a dispatch fails closed and writes nothing. -/
def FailsClosedAfter (earlier later : Exchanged) : Prop :=
  earlier.outcome.isOk = false →
    later.response = failClosed "inner session previously failed" ∧ later.written = []

/-- What is unread in a session that has not failed is a list of lines. -/
def Aligned (session : Session) : Prop :=
  session.poisoned = true ∨ ∃ ahead, session.stdout.unread = linesBytes ahead

theorem dispatched_cases (session : Session) (call : DispatchCall) (aligned : Aligned session) :
    (∃ error, (call.dispatched lossy session).outcome = .error error ∧
        (call.dispatched lossy session).session.poisoned = true) ∨
      ∃ ahead before hit behind, session.stdout.unread = linesBytes ahead ∧
        ahead ++ call.answer.lines = before ++ hit :: behind ∧
        (∀ line ∈ before, line.Skipped (requestId call.request)) ∧
        hit.Hit (requestId call.request) ∧
        (call.dispatched lossy session).outcome = .ok hit.returned ∧
        (call.dispatched lossy session).session.stdout.unread = linesBytes behind := by
  rcases @dispatch_cases _ lossy session call.request call.channel with
    ⟨poisoned, refused⟩ | ⟨sound, failed | ⟨_, succeeds, outcome, left⟩⟩
  · refine .inl ⟨"inner session previously failed", ?_⟩
    rw [DispatchCall.dispatched, refused]
    exact ⟨rfl, poisoned⟩
  · exact .inl failed
  · obtain ⟨ahead, unread⟩ := aligned.resolve_left (by simp [sound])
    rcases exchange_eq_ok unread call.answered succeeds with
      ⟨before, hit, behind, split, skipped, hits, rfl, rest⟩
    refine .inr ⟨ahead, before, hit, behind, unread, split, skipped, hits, outcome, ?_⟩
    rw [DispatchCall.dispatched, left, rest]

variable (session : Session) (call : DispatchCall)

theorem aligned_dispatched (aligned : Aligned session) :
    Aligned (call.dispatched lossy session).session := by
  rcases dispatched_cases session call aligned with
    ⟨_, _, poisoned⟩ | ⟨_, _, _, behind, _, _, _, _, _, unread⟩
  · exact .inl poisoned
  · exact .inr ⟨behind, unread⟩

theorem lineCarriesId_eq_false_iff (line : InnerLine) :
    lineCarriesId lossy wantId (encodeUtf8 line.text) = false ↔ ¬ line.Hit wantId := by
  rw [lineCarriesId, lossy.lossless, InnerLine.Hit, InnerLine.value, InnerLine.returned]
  cases Crates.fromSlice (encodeUtf8 (trim line.text)) <;> simp

theorem InnerLine.Skipped.not_hit {line : InnerLine} (skipped : line.Skipped wantId) :
    ¬ line.Hit wantId := by
  obtain ⟨_, parsed, other⟩ := skipped
  rintro ⟨_, parsedSame, carries⟩
  cases parsed.symm.trans parsedSame
  cases other.symm.trans carries

theorem InnerLine.not_skipped_of_isResponse {line : InnerLine}
    (responds : line.isResponse wantId) : ¬ line.Skipped wantId := by
  rintro ⟨_, parsed, other⟩
  rw [InnerLine.isResponse, parsed, Option.all_some, Bool.and_eq_true] at responds
  obtain ⟨_, _, _⟩ := (Option.any_eq_true _ _).mp responds.2
  rw [carriesId] at other
  simp_all

theorem hit_is_response_iff {front trailing before behind : List InnerLine}
    {response hit : InnerLine} (responds : response.isResponse wantId)
    (split : front ++ response :: trailing = before ++ hit :: behind)
    (skipped : ∀ line ∈ before, line.Skipped wantId) (hits : hit.Hit wantId) :
    hit.returned = response.returned ∧ linesBytes behind = linesBytes trailing ↔
      ∀ line ∈ front, ¬ line.Hit wantId := by
  constructor
  · intro own line member
    have sameLength : behind.length = trailing.length := by
      have sameLines := congrArg (fun bytes => (lines bytes).length) own.2
      simpa [lines_linesBytes] using sameLines
    have parts := append_inj' split (by simp [sameLength])
    rw [parts.1] at member
    exact (skipped line member).not_hit
  · intro clean
    rcases append_eq_append_iff.mp split with ⟨between, rfl, rest⟩ | ⟨between, rfl, rest⟩
    · cases between with
      | nil =>
        cases rest
        exact ⟨rfl, rfl⟩
      | cons line between =>
        cases (cons_eq_cons.mp rest).1
        exact absurd (skipped response (by simp)) (InnerLine.not_skipped_of_isResponse responds)
    · cases between with
      | nil =>
        cases rest
        exact ⟨rfl, rfl⟩
      | cons line between =>
        cases (cons_eq_cons.mp rest).1
        exact absurd hits (clean hit (by simp))

theorem returnsOwn_iff_noClash (aligned : Aligned session) :
    ReturnsOwn lossy session call ↔ NoClash lossy session call := by
  rcases @dispatched_cases _ lossy session call aligned with
    ⟨_, failed, _⟩ | ⟨_, _, _, _, unread, split, skipped, hits, outcome, left⟩
  · rw [ReturnsOwn, NoClash, failed]
    exact ⟨nofun, nofun⟩
  · rw [InnerAnswer.lines, ← append_assoc] at split
    rw [ReturnsOwn, NoClash, outcome, left, unread, ← linesBytes_append, lines_linesBytes]
    simp only [forall_mem_map, lineCarriesId_eq_false_iff]
    rw [← hit_is_response_iff call.answer.responds split skipped hits]
    constructor
    · exact fun own _ => own _ rfl
    · rintro own _ ⟨⟩
      exact own rfl

/-! ## Runs of a session -/

theorem aligned_new {session : Session} {channel : Channel} {greeting : List InnerLine}
    (greeted : channel.output = linesBytes greeting)
    (started : new lossy readTimeout channel = .ok session) : Aligned session := by
  have begun := Except.mapError_eq_ok.mp started
  obtain ⟨_, _, begun⟩ := Except.bind_eq_ok.mp begun
  obtain ⟨_, succeeds, begun⟩ := Except.bind_eq_ok.mp begun
  obtain ⟨_, _, begun⟩ := Except.bind_eq_ok.mp begun
  rcases @exchange_eq_ok _ lossy _ _ _ _ channel [] greeting rfl greeted succeeds with
    ⟨_, _, behind, _, _, _, _, left⟩
  split at begun
  · cases begun
  · split at begun
    · cases begun
    · cases begun
      exact .inr ⟨behind, left⟩

theorem poisoned_of_failed (failed : (call.dispatched lossy session).outcome.isOk = false) :
    (call.dispatched lossy session).session.poisoned = true := by
  rcases @dispatch_cases _ lossy session call.request call.channel with
    ⟨poisoned, refused⟩ | ⟨_, ⟨_, _, poisoned⟩ | ⟨_, _, succeeds, _⟩⟩
  · rw [DispatchCall.dispatched, refused]
    exact poisoned
  · exact poisoned
  · rw [DispatchCall.dispatched, succeeds] at failed
    cases failed

theorem dispatched_poisoned {session : Session} (poisoned : session.poisoned = true)
    (call : DispatchCall) : call.dispatched lossy session =
      ⟨.error "inner session previously failed", session, []⟩ := by
  rw [DispatchCall.dispatched, dispatch, if_pos poisoned]

theorem failsClosedAfter_answers (calls : List DispatchCall) :
    ((machine lossy).answers session calls).Pairwise FailsClosedAfter := by
  have never : ((machine lossy).answers session calls).Pairwise
      fun earlier later => ¬ ¬ FailsClosedAfter earlier later := by
    apply Machine.pairwise_answers (fun _ => True)
      (fun answer session => answer.outcome.isOk = false → session.poisoned = true)
    · exact fun _ _ _ _ => trivial
    · exact fun session call _ _ => poisoned_of_failed session call
    · intro answer session call barred _ failed
      change (call.dispatched lossy session).session.poisoned = true
      rw [dispatched_poisoned (barred failed)]
      exact barred failed
    · intro answer session call barred _ leaves
      apply leaves
      intro failed
      change (call.dispatched lossy session).response = _ ∧
        (call.dispatched lossy session).written = []
      rw [dispatched_poisoned (barred failed)]
      exact ⟨rfl, rfl⟩
    · trivial
    · exact Machine.allowed_true session calls
  exact never.imp not_not.mp

/-- In every run of a session with an inner server that answers every request, each dispatch
that does not fail returns its own response, exactly when no line ahead of a response has
the id of its request. -/
theorem returns_ownResponse_iff (lossy : Utf8Lossy) (readTimeout : String) (channel : Channel)
    (greeting : InnerAnswer (.number (numberOfInteger 1)))
    (greeted : channel.output = linesBytes greeting.lines) (session : Session)
    (started : new lossy readTimeout channel = .ok session) (calls : List DispatchCall) :
    (machine lossy).Allowed (ReturnsOwn lossy) session calls ∧
        ((machine lossy).answers session calls).Pairwise FailsClosedAfter ↔
      (machine lossy).Allowed (NoClash lossy) session calls := by
  rw [and_iff_left (failsClosedAfter_answers session calls)]
  apply Machine.allowed_congr
  · exact aligned_dispatched
  · exact returnsOwn_iff_noClash
  · exact aligned_new greeted started

end

/-! ## A request of the inner server's own -/

/-- `from_utf8_lossy` on what is UTF-8. -/
def utf8Lossy : Utf8Lossy where
  decode bytes := (decodeUtf8 bytes).getD []
  lossless text := by rw [decodeUtf8_encodeUtf8, Option.getD_some]

@[reducible] def innerCrates : Crates := referenceCrates "" [] []

/-- A channel on which nothing goes wrong. -/
def openChannel (output : Bytes) : Channel where
  writeDeadlineFits := true
  frame := .ok ()
  frameEnd := .ok ()
  flush := .ok ()
  readDeadlineFits := true
  output
  waits := [.readable 8191]

def greetingLine : InnerLine where
  text := textChars "\x7b\"id\":1,\"jsonrpc\":\"2.0\",\"result\":\x7b\x7d\x7d"
  unbroken := by decide +kernel
  nonblank := by decide +kernel

def responseLine : InnerLine where
  text := textChars "\x7b\"id\":7,\"jsonrpc\":\"2.0\",\"result\":\x7b\x7d\x7d"
  unbroken := by decide +kernel
  nonblank := by decide +kernel

/-- A request that the inner server sends to its client under an id. -/
def rootsLine : InnerLine where
  text := textChars "\x7b\"id\":7,\"jsonrpc\":\"2.0\",\"method\":\"roots/list\"\x7d"
  unbroken := by decide +kernel
  nonblank := by decide +kernel

def toolsRequest : Bytes :=
  textBytes "\x7b\"id\":7,\"jsonrpc\":\"2.0\",\"method\":\"tools/list\"\x7d"

def greetingAnswer : @InnerAnswer innerCrates (.number (numberOfInteger 1)) :=
  let crates := innerCrates
  ⟨[], greetingLine, [], nofun, by decide +kernel, by decide⟩

/-- The session after its handshake. -/
def idleSession : Session := ⟨⟨[], []⟩, 2, false, "30s"⟩

/-- The request with its response, and the inner server's own request ahead of it or behind. -/
def toolsCall (leading trailing : List InnerLine)
    (messages : ∀ line ∈ leading ++ trailing, @InnerLine.isServerMessage innerCrates line)
    (few : (leading ++ trailing).length < 64) : @DispatchCall innerCrates :=
  let crates := innerCrates
  { request := toolsRequest
    identified := by decide +kernel
    channel := openChannel (linesBytes (leading ++ responseLine :: trailing))
    answer := ⟨leading, responseLine, trailing, messages, by decide +kernel, few⟩
    answered := rfl }

theorem isServerMessage_rootsLine : @InnerLine.isServerMessage innerCrates rootsLine := by
  decide +kernel

def rootsBehindCall : @DispatchCall innerCrates :=
  toolsCall [] [rootsLine] (by simpa using isServerMessage_rootsLine) (by decide)

def rootsAheadCall : @DispatchCall innerCrates :=
  toolsCall [rootsLine] [] (by simpa using isServerMessage_rootsLine) (by decide)

theorem new_idleSession :
    @new innerCrates utf8Lossy "30s" (openChannel greetingLine.bytes) = .ok idleSession := by
  decide +kernel

/-- With the inner server's own request behind the response, the response is returned. -/
theorem returns_ownResponse_behind :
    letI := innerCrates
    (rootsBehindCall.dispatched utf8Lossy idleSession).outcome = .ok responseLine.returned ∧
      (machine utf8Lossy).Allowed (ReturnsOwn utf8Lossy) idleSession [rootsBehindCall] := by
  let crates := innerCrates
  have clear : NoClash utf8Lossy idleSession rootsBehindCall := by
    intro _ line ahead
    cases ahead
  refine ⟨by decide +kernel, ?_⟩
  exact ((returns_ownResponse_iff utf8Lossy "30s" (openChannel greetingLine.bytes) greetingAnswer
    rfl idleSession new_idleSession [rootsBehindCall]).mpr ⟨clear, trivial⟩).1

/-- With its own request ahead of the response, under the same id, that request is returned to
the caller and the response is left in the pipe. -/
theorem returns_serverRequest_ahead :
    letI := innerCrates
    new utf8Lossy "30s" (openChannel greetingLine.bytes) = .ok idleSession ∧
      (rootsAheadCall.dispatched utf8Lossy idleSession).outcome = .ok rootsLine.returned ∧
      (rootsAheadCall.dispatched utf8Lossy idleSession).session.stdout.unread =
        responseLine.bytes ∧
      ¬ (machine utf8Lossy).Allowed (ReturnsOwn utf8Lossy) idleSession [rootsAheadCall] := by
  let crates := innerCrates
  have returned : (rootsAheadCall.dispatched utf8Lossy idleSession).outcome =
      .ok rootsLine.returned := by
    decide +kernel
  refine ⟨new_idleSession, returned, by decide +kernel, ?_⟩
  intro own
  have same := (own.1 _ returned).1
  have differs : rootsLine.returned ≠ responseLine.returned := by decide +kernel
  exact differs same

/-! ## The lines of the inner server -/

/-- However the output of the inner server is delivered, its lines are read one after another,
then what follows the last newline, and then the end; a line beyond the cap is an error, and
no more than one byte above the cap is ever held. -/
theorem readLines_innerLines (lines : List Bytes) (rest : Bytes) (source : Source)
    (sizes : List Nat) (unbroken : ∀ line ∈ lines, newline ∉ line)
    (short : ∀ line ∈ lines, line.length ≤ maxInnerLineBytes)
    (text : source.unread = lines.flatMap (· ++ [newline]) ++ rest) :
    (∀ calls, source.pipe.length + (lines.length + (calls + 1)) ≤ sizes.length →
      newline ∉ rest → rest.length ≤ maxInnerLineBytes →
        readLines maxInnerLineBytes (lines.length + (calls + 1)) source (sizes.map .readable) =
          lines.map (fun line => .ok (.line (line ++ [newline]))) ++
            .ok (if rest = [] then .eof else .line rest) :: List.replicate calls (.ok .eof)) ∧
    (∀ long after, source.pipe.length + (lines.length + 1) ≤ sizes.length →
      rest = long ++ after → newline ∉ long → long.length = maxInnerLineBytes + 1 →
        readLines maxInnerLineBytes (lines.length + 1) source (sizes.map .readable) =
          lines.map (fun line => .ok (.line (line ++ [newline]))) ++ [.error .overlong]) ∧
    ∀ waits bytes, Holds maxInnerLineBytes [] source waits bytes →
      bytes.length ≤ maxInnerLineBytes + 1 := by
  refine ⟨?_, ?_, fun waits bytes holds => holds.length_le (Nat.zero_le _)⟩
  · intro calls enough last fits
    obtain ⟨after, left, unread, enough, read⟩ := readLines_lines unbroken short sizes enough text
    have drained := @drain_unbroken _ [] _ last fits []
    rw [List.append_nil, ← unread] at drained
    obtain ⟨ended, others, nothing, enough, next⟩ :=
      readLines_delivered left enough (congrArg verdict drained)
    rw [read, next, readLines_eof calls others enough nothing, unread]
    rfl
  · intro long after enough split clean size
    obtain ⟨source, left, unread, enough, read⟩ := readLines_lines unbroken short sizes enough text
    have drained := drain_overlong clean size after
    rw [← split, ← unread] at drained
    obtain ⟨_, _, _, _, next⟩ := readLines_delivered left enough (congrArg verdict drained)
    rw [read, next]
    rfl

/-- Two lines and an unfinished one, delivered byte by byte. -/
theorem readLines_innerLines_bytewise :
    readLines maxInnerLineBytes 4 ⟨[], [104, 105, 10, 10, 33]⟩ (List.replicate 9 (.readable 0)) =
      [.ok (.line [104, 105, 10]), .ok (.line [10]), .ok (.line [33]), .ok .eof] :=
  (readLines_innerLines [[104, 105], []] [33] ⟨[], [104, 105, 10, 10, 33]⟩ (List.replicate 9 0)
    (by decide) (by decide) rfl).1 1 (by decide) (by decide) (by decide)

end Mcps.Proxy.PersistentInner
