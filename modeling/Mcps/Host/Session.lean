import Mcps.ClientCore.Reference
import Mcps.Core.SerdeText
import Mcps.Lib.History

/-!
# The host session

A client session that signs draft-01 requests and verifies their responses.  The hash of
every request that was signed is kept under the JSON text of its JSON-RPC id until a
response verifies against it, or the request is cancelled or expires; a second request
under an id that is still held is refused.

In every run of a session an accepted response carries the hash of the last request signed
under its id, and nothing has ended that request before.
-/

namespace Mcps.Host

/-! ## Signing -/

/-- A signing key with the identity it signs for. -/
structure HostSigner where
  sign : Bytes → String
  signer : String
  keyId : String

/-- What a caller asks to have signed. -/
structure RequestFields where
  id : MapValue
  method : String
  params : { members : List (String × Value) // (Json.object members).SortedKeys }
  onBehalfOf : String
  audience : String
  authorizationHash : String

/-- The draft-01 request envelope without its signature value. -/
def unsignedEnvelope (host : HostSigner) (fields : RequestFields)
    (nonce issuedAt expiresAt : String) : Value :=
  .object [
    ("audience", .string fields.audience),
    ("authorization_hash", .string fields.authorizationHash),
    ("expires_at", .string expiresAt),
    ("issued_at", .string issuedAt),
    ("nonce", .string nonce),
    ("on_behalf_of", .string fields.onBehalfOf),
    ("signature", .object [("alg", .string sigAlgEd25519), ("key_id", .string host.keyId)]),
    ("signer", .string host.signer),
    ("version", .string versionDraft01)]

def unsignedRequest (host : HostSigner) (fields : RequestFields)
    (nonce issuedAt expiresAt : String) : Value :=
  .object [("id", fields.id.val), ("jsonrpc", .string "2.0"), ("method", .string fields.method),
    ("params", .object (ClientCore.paramsWithEnvelope fields.params.val
      (unsignedEnvelope host fields nonce issuedAt expiresAt)))]

/-! ## Pending requests -/

structure PendingRequest where
  requestHash : String
  expiresAtUnix : Int
  deriving DecidableEq, Repr

def PendingRequest.isExpiredAt (entry : PendingRequest) (nowUnix : Int) : Bool :=
  nowUnix ≥ entry.expiresAtUnix

/-- The text of an id, as its bytes in their order. -/
abbrev IdKey := List Nat

structure HostSession where
  signer : HostSigner
  requestLifetimeSecs : I64
  pending : Assoc.SortedMap (fun first second : IdKey => first < second) PendingRequest

def defaultRequestLifetimeSecs : I64 := ⟨300, by decide⟩

def HostSession.new (signer : HostSigner) (requestLifetimeSecs : I64) : HostSession :=
  ⟨signer, requestLifetimeSecs, Assoc.SortedMap.empty⟩

def HostSession.withDefaults (signer : HostSigner) : HostSession :=
  HostSession.new signer defaultRequestLifetimeSecs

/-- `i64::checked_add`. -/
def checkedAdd (left right : I64) : Option I64 :=
  if inRange : i64Min ≤ left.val + right.val ∧ left.val + right.val ≤ i64Max then
    some ⟨left.val + right.val, inRange⟩
  else none

theorem val_of_checkedAdd {left right sum : I64} (added : checkedAdd left right = some sum) :
    sum.val = left.val + right.val := by
  unfold checkedAdd at added
  split at added
  · cases added
    rfl
  · cases added

def nonceBytes : Nat := 16

section

variable [Crates]

def HostSigner.signRequest (host : HostSigner) (fields : RequestFields)
    (nonce issuedAt expiresAt : String) : Except McpsError Bytes := do
  let request := unsignedRequest host fields nonce issuedAt expiresAt
  let preimage ← requestSigningPreimage request
  let request := ClientCore.graftSignature request (host.sign preimage)
  (Crates.toVec request).okOr .canonicalizationFailed

/-- The key an id is held under: the text that `serde_json::to_string` writes for it. -/
def idKey (id : MapValue) : IdKey := ((Crates.toVec id.val).getD []).map UInt8.toNat

/-- A member of an object, as a value of its own. -/
def member? (value : MapValue) (key : String) : Option MapValue :=
  match found : value.val.get key with
  | some member => some ⟨member, value.property.get found⟩
  | none => none

def responseId (responseBytes : Bytes) : Except McpsError MapValue := do
  let value ← (Crates.fromSlice responseBytes).okOr .canonicalizationFailed
  (member? value "id").okOr .missingEnvelope

/-- A request to sign, with the entropy and the time that the session draws for it. -/
structure SignCall extends RequestFields where
  entropy : Vector UInt8 nonceBytes
  nowUnix : I64

/-- The signed request, its hash, and when it expires. -/
def HostSession.signed (session : HostSession) (call : SignCall) :
    Except McpsError (Bytes × PendingRequest) := do
  if (session.pending.get? (idKey call.id)).isSome then throw .replayDetected
  let nonce := Crates.b64urlEncode call.entropy.toList
  let expiresUnix ← (checkedAdd call.nowUnix session.requestLifetimeSecs).okOr
    .canonicalizationFailed
  let bytes ← session.signer.signRequest call.toRequestFields nonce
    (unixToRfc3339Utc call.nowUnix.val) (unixToRfc3339Utc expiresUnix.val)
  let signedValue ← (Crates.fromSlice bytes).okOr .canonicalizationFailed
  let hash ← requestHash signedValue.val
  return (bytes, ⟨hash, expiresUnix.val⟩)

def HostSession.signRequest (session : HostSession) (call : SignCall) :
    Except McpsError Bytes × HostSession :=
  match session.signed call with
  | .error error => (.error error, session)
  | .ok (bytes, entry) =>
    (.ok bytes, { session with pending := session.pending.insert (idKey call.id) entry })

/-- The id of a response that verifies against the hash held for it. -/
def HostSession.verified (session : HostSession) (responseBytes : Bytes)
    (resolver : TrustResolver) : Except McpsError (MapValue × VerifiedResponse) := do
  let id ← responseId responseBytes
  let entry ← (session.pending.get? (idKey id)).okOr .missingEnvelope
  let verified ← Mcps.verifyResponse responseBytes resolver entry.requestHash
  return (id, verified)

def HostSession.verifyResponse (session : HostSession) (responseBytes : Bytes)
    (resolver : TrustResolver) : Except McpsError VerifiedResponse × HostSession :=
  match session.verified responseBytes resolver with
  | .error error => (.error error, session)
  | .ok (id, verified) =>
    (.ok verified, { session with pending := session.pending.remove (idKey id) })

def HostSession.cancelRequest (session : HostSession) (id : MapValue) : Bool × HostSession :=
  ((session.pending.get? (idKey id)).isSome,
    { session with pending := session.pending.remove (idKey id) })

end

def HostSession.expirePending (session : HostSession) (nowUnix : Int) : Nat × HostSession :=
  let kept := session.pending.retain fun entry => !entry.2.isExpiredAt nowUnix
  (session.pending.size - kept.size, { session with pending := kept })

/-! ## Keys of ids -/

theorem jcsSafe_of_preimage {host : HostSigner} {fields : RequestFields}
    {nonce issuedAt expiresAt : String} {preimage : Bytes}
    (made : requestSigningPreimage (unsignedRequest host fields nonce issuedAt expiresAt) =
      .ok preimage) : JcsSafe [] maxParseDepth [] fields.id.val := by
  have canonical := signingPreimage_eq_ok made
  obtain ⟨_, converted, _⟩ := Except.bind_eq_ok.mp canonical
  have safe := jcsSafe_of_fromSerdeValueAt converted
  have inside := jcsSafe_iff.mp (safe.2.1.resolve_left (by simp))
  exact jcsSafe_iff.mpr ⟨inside.1, inside.2.trans (Nat.sub_le _ _)⟩

theorem idKey_injective [Crates] (serde : SerdeJson) {id other : MapValue}
    (safe : JcsSafe [] maxParseDepth [] id.val) (same : idKey other = idKey id) : other = id := by
  obtain ⟨bytes, written⟩ := serde.writes id
  obtain ⟨otherBytes, otherWritten⟩ := serde.writes other
  have bytesSame : otherBytes = bytes := by
    rw [idKey, idKey, written, otherWritten] at same
    exact List.map_injective_iff.mpr (fun _ _ => UInt8.toNat_inj.mp) same
  exact serde.distinguishes safe written (bytesSame ▸ otherWritten)

/-! ## What the calls do -/

section

variable [Crates] {session : HostSession}

theorem HostSigner.signRequest_eq_ok {host : HostSigner} {fields : RequestFields}
    {nonce issuedAt expiresAt : String} {bytes : Bytes}
    (signed : host.signRequest fields nonce issuedAt expiresAt = .ok bytes) :
    JcsSafe [] maxParseDepth [] fields.id.val := by
  obtain ⟨_, made, _⟩ := Except.bind_eq_ok.mp signed
  exact jcsSafe_of_preimage made

theorem HostSession.signed_eq_ok {call : SignCall} {bytes : Bytes} {entry : PendingRequest}
    (signed : session.signed call = .ok (bytes, entry)) :
    JcsSafe [] maxParseDepth [] call.id.val ∧
      entry.expiresAtUnix = call.nowUnix.val + session.requestLifetimeSecs.val ∧
      ∃ value, Crates.fromSlice bytes = some value ∧
        requestHash value.val = .ok entry.requestHash := by
  simp only [HostSession.signed, Except.throw_eq_error, Except.bind_error, Except.bind_eq_ok,
    Except.guard_eq_ok, Option.okOr_eq_ok] at signed
  obtain ⟨_, _, added, _, written, value, parsed, _, hashed, ⟨⟩⟩ := signed
  exact ⟨HostSigner.signRequest_eq_ok written, val_of_checkedAdd added, value, parsed, hashed⟩

theorem requestHash_of_verifyResponse {bytes : Bytes} {resolver : TrustResolver}
    {expected : String} {verified : VerifiedResponse}
    (accepted : Mcps.verifyResponse bytes resolver expected = .ok verified) :
    verified.requestHash = expected := by
  simp only [Mcps.verifyResponse, Except.throw_eq_error, Except.bind_error, Except.bind_eq_ok,
    Except.guard_eq_ok, not_not] at accepted
  obtain ⟨_, _, _, _, _, _, _, _, same, ⟨⟩⟩ := accepted
  exact same

theorem HostSession.verified_eq_ok {bytes : Bytes} {resolver : TrustResolver} {id : MapValue}
    {verified : VerifiedResponse} (accepted : session.verified bytes resolver = .ok (id, verified)) :
    responseId bytes = .ok id ∧
      ∃ entry, session.pending.get? (idKey id) = some entry ∧
        verified.requestHash = entry.requestHash := by
  simp only [HostSession.verified, Except.bind_eq_ok, Option.okOr_eq_ok] at accepted
  obtain ⟨_, named, entry, held, _, checked, ⟨⟩⟩ := accepted
  exact ⟨named, entry, held, requestHash_of_verifyResponse checked⟩

theorem HostSession.signRequest_cases (session : HostSession) (call : SignCall) :
    (∃ error, session.signRequest call = (.error error, session)) ∨
      ∃ bytes entry, session.signed call = .ok (bytes, entry) ∧
        session.signRequest call =
          (.ok bytes, { session with pending := session.pending.insert (idKey call.id) entry }) := by
  cases signed : session.signed call with
  | error error => exact .inl ⟨error, by rw [signRequest, signed]⟩
  | ok made => exact .inr ⟨made.1, made.2, rfl, by rw [signRequest, signed]⟩

theorem HostSession.verifyResponse_cases (session : HostSession) (bytes : Bytes)
    (resolver : TrustResolver) :
    (∃ error, session.verifyResponse bytes resolver = (.error error, session)) ∨
      ∃ id verified, session.verified bytes resolver = .ok (id, verified) ∧
        session.verifyResponse bytes resolver =
          (.ok verified, { session with pending := session.pending.remove (idKey id) }) := by
  cases accepted : session.verified bytes resolver with
  | error error => exact .inl ⟨error, by rw [verifyResponse, accepted]⟩
  | ok made => exact .inr ⟨made.1, made.2, rfl, by rw [verifyResponse, accepted]⟩

end

/-! ## Runs of a session -/

inductive HostCall where
  | sign (call : SignCall)
  | verify (responseBytes : Bytes) (resolver : TrustResolver)
  | cancel (id : MapValue)
  | expire (nowUnix : Int)

/-- A call with what it returned. -/
inductive HostAnswer where
  | signed (call : SignCall) (result : Except McpsError Bytes)
  | verified (responseBytes : Bytes) (result : Except McpsError VerifiedResponse)
  | cancelled (id : MapValue) (result : Bool)
  | expired (nowUnix : Int) (result : Nat)

/-- The error that the call returned, if it did. -/
def HostAnswer.error? : HostAnswer → Option McpsError
  | .signed _ (.error error) => some error
  | .verified _ (.error error) => some error
  | _ => none

section

variable [Crates]

def machine : Machine HostSession HostCall HostAnswer where
  step session call :=
    match call with
    | .sign call => ((.signed call (session.signRequest call).1), (session.signRequest call).2)
    | .verify bytes resolver =>
      (.verified bytes (session.verifyResponse bytes resolver).1,
        (session.verifyResponse bytes resolver).2)
    | .cancel id => (.cancelled id (session.cancelRequest id).1, (session.cancelRequest id).2)
    | .expire nowUnix =>
      (.expired nowUnix (session.expirePending nowUnix).1, (session.expirePending nowUnix).2)

/-- A request was signed under the id, with the hash and the end of its lifetime. -/
def Signs (lifetime : Int) (id : MapValue) (entry : PendingRequest) : HostAnswer → Prop
  | .signed call (.ok bytes) =>
    call.id = id ∧ entry.expiresAtUnix = call.nowUnix.val + lifetime ∧
      ∃ value, Crates.fromSlice bytes = some value ∧
        requestHash value.val = .ok entry.requestHash
  | _ => False

/-- A response under the id was accepted. -/
def Accepts (id : MapValue) : HostAnswer → Prop
  | .verified bytes (.ok _) => responseId bytes = .ok id
  | _ => False

/-- The call does not end a request: it neither signs another one under the id, nor accepts a
response to it, nor cancels it, nor expires it. -/
def Outlives (id : MapValue) (entry : PendingRequest) : HostAnswer → Prop
  | .signed call (.ok _) => call.id ≠ id
  | .verified bytes (.ok _) => responseId bytes ≠ .ok id
  | .cancelled other _ => other ≠ id
  | .expired nowUnix _ => nowUnix < entry.expiresAtUnix
  | _ => True

/-- The request is the last one signed under its id, and nothing has ended it. -/
def Outstanding (lifetime : Int) (id : MapValue) (entry : PendingRequest) :
    List HostAnswer → Prop :=
  Since (Signs lifetime id entry) (Outlives id entry)

/-- An accepted response carries the hash of the outstanding request under its id. -/
def AnswersOutstanding (lifetime : Int) (past : List HostAnswer) : HostAnswer → Prop
  | .verified bytes (.ok verified) => ∃ id entry, responseId bytes = .ok id ∧
      verified.requestHash = entry.requestHash ∧ Outstanding lifetime id entry past
  | _ => True

/-- A call that fails leaves the pending requests as they are. -/
def KeepsOnError (session : HostSession) (call : HostCall) : Prop :=
  (machine.step session call).1.error?.isSome →
    (machine.step session call).2.pending = session.pending

/-- Every entry belongs to a request that is outstanding. -/
structure Tracks (lifetime : Int) (past : List HostAnswer) (session : HostSession) : Prop where
  lifetime_eq : session.requestLifetimeSecs.val = lifetime
  outstanding : ∀ key entry, session.pending.get? key = some entry →
    ∃ id, idKey id = key ∧ JcsSafe [] maxParseDepth [] id.val ∧ Outstanding lifetime id entry past

variable {lifetime : Int} {past : List HostAnswer} {session : HostSession}

/-- An answer that ends no request of a later session keeps what is tracked. -/
theorem Tracks.concat (tracks : Tracks lifetime past session) {next : HostSession}
    {answer : HostAnswer}
    (same : next.requestLifetimeSecs = session.requestLifetimeSecs)
    (entries : ∀ key entry, next.pending.get? key = some entry →
      (session.pending.get? key = some entry ∧ ∀ id, idKey id = key → Outlives id entry answer) ∨
        ∃ id, idKey id = key ∧ JcsSafe [] maxParseDepth [] id.val ∧ Signs lifetime id entry answer) :
    Tracks lifetime (past ++ [answer]) next := by
  constructor
  · rw [same]
    exact tracks.lifetime_eq
  · intro key entry held
    rcases entries key entry held with ⟨before, outlives⟩ | ⟨id, keyed, safe, signs⟩
    · obtain ⟨id, keyed, safe, since⟩ := tracks.outstanding key entry before
      exact ⟨id, keyed, safe, since.concat (outlives id keyed)⟩
    · exact ⟨id, keyed, safe, since_concat signs⟩

theorem tracks_sign (tracks : Tracks lifetime past session) (call : SignCall) :
    Tracks lifetime (past ++ [.signed call (session.signRequest call).1])
      (session.signRequest call).2 := by
  rcases session.signRequest_cases call with ⟨_, refused⟩ | ⟨_, _, signed, result⟩
  · rw [refused]
    exact tracks.concat rfl fun key entry held => .inl ⟨held, fun _ _ => trivial⟩
  · rw [result]
    obtain ⟨safe, expires, hashed⟩ := HostSession.signed_eq_ok signed
    refine tracks.concat rfl ?_
    intro key entry held
    by_cases own : key = idKey call.id
    · subst own
      cases Assoc.SortedMap.get?_insert_self.symm.trans held
      rw [tracks.lifetime_eq] at expires
      exact .inr ⟨call.id, rfl, safe, rfl, expires, hashed⟩
    · refine .inl ⟨(Assoc.SortedMap.get?_insert_ne own).symm.trans held, ?_⟩
      intro id keyed same
      exact own (keyed.symm.trans (congrArg idKey same.symm))

theorem tracks_verify (tracks : Tracks lifetime past session) (bytes : Bytes)
    (resolver : TrustResolver) :
    Tracks lifetime (past ++ [.verified bytes (session.verifyResponse bytes resolver).1])
      (session.verifyResponse bytes resolver).2 := by
  rcases session.verifyResponse_cases bytes resolver with
    ⟨_, refused⟩ | ⟨_, _, accepted, result⟩
  · rw [refused]
    exact tracks.concat rfl fun key entry held => .inl ⟨held, fun _ _ => trivial⟩
  · rw [result]
    have named := (HostSession.verified_eq_ok accepted).1
    refine tracks.concat rfl ?_
    intro key entry held
    obtain ⟨other, before⟩ := Assoc.SortedMap.get?_remove_eq_some.mp held
    refine .inl ⟨before, ?_⟩
    intro id keyed same
    cases named.symm.trans same
    exact other keyed.symm

theorem tracks_cancel (tracks : Tracks lifetime past session) (id : MapValue) :
    Tracks lifetime (past ++ [.cancelled id (session.cancelRequest id).1])
      (session.cancelRequest id).2 := by
  refine tracks.concat rfl fun key entry held => ?_
  obtain ⟨other, before⟩ := Assoc.SortedMap.get?_remove_eq_some.mp held
  refine .inl ⟨before, ?_⟩
  rintro named keyed rfl
  exact other keyed.symm

theorem tracks_expire (tracks : Tracks lifetime past session) (nowUnix : Int) :
    Tracks lifetime (past ++ [.expired nowUnix (session.expirePending nowUnix).1])
      (session.expirePending nowUnix).2 := by
  refine tracks.concat rfl fun key entry held => ?_
  have kept := Assoc.SortedMap.get?_retain.symm.trans held
  obtain ⟨before, alive⟩ := Option.filter_eq_some_iff.mp kept
  refine .inl ⟨before, fun _ _ => ?_⟩
  simpa [PendingRequest.isExpiredAt, Outlives] using alive

theorem tracks_step (tracks : Tracks lifetime past session) (call : HostCall) :
    Tracks lifetime (past ++ [(machine.step session call).1]) (machine.step session call).2 := by
  cases call with
  | sign call => exact tracks_sign tracks call
  | verify bytes resolver => exact tracks_verify tracks bytes resolver
  | cancel id => exact tracks_cancel tracks id
  | expire nowUnix => exact tracks_expire tracks nowUnix

theorem tracks_new (signer : HostSigner) (requestLifetimeSecs : I64) :
    Tracks requestLifetimeSecs.val [] (HostSession.new signer requestLifetimeSecs) :=
  ⟨rfl, fun _ _ held => by cases held⟩

theorem answersOutstanding_step (serde : SerdeJson) (tracks : Tracks lifetime past session)
    (call : HostCall) : AnswersOutstanding lifetime past (machine.step session call).1 := by
  cases call with
  | sign _ | cancel _ | expire _ => trivial
  | verify bytes resolver =>
    change AnswersOutstanding lifetime past
      (.verified bytes (session.verifyResponse bytes resolver).1)
    rcases session.verifyResponse_cases bytes resolver with
      ⟨_, refused⟩ | ⟨answered, _, accepted, result⟩
    · rw [refused]
      trivial
    · rw [result]
      obtain ⟨named, entry, held, hash⟩ := HostSession.verified_eq_ok accepted
      obtain ⟨_, keyed, safe, since⟩ := tracks.outstanding _ entry held
      cases idKey_injective serde safe keyed.symm
      exact ⟨answered, entry, named, hash, since⟩

theorem signed_between {before between : List HostAnswer} {first second : HostAnswer}
    {id : MapValue} (firstAccepts : Accepts id first) (secondAccepts : Accepts id second)
    (answers : AnswersOutstanding lifetime (before ++ first :: between) second) :
    ∃ signed ∈ between, ∃ entry, Signs lifetime id entry signed := by
  cases second with
  | verified bytes result =>
    cases result with
    | error error => cases secondAccepts
    | ok response =>
      obtain ⟨_, entry, named, _, since⟩ := answers
      cases named.symm.trans secondAccepts
      cases first with
      | verified firstBytes firstResult =>
        cases firstResult with
        | error error => cases firstAccepts
        | ok firstResponse =>
          rcases since.of_append (fun outlives => outlives firstAccepts) nofun with
            ⟨signed, member, signs⟩
          exact ⟨signed, member, entry, signs⟩
      | _ => cases firstAccepts
  | _ => cases secondAccepts

theorem keepsOnError_step (session : HostSession) (call : HostCall) :
    KeepsOnError session call := by
  intro failed
  cases call with
  | cancel _ | expire _ => cases failed
  | sign call =>
    change (session.signRequest call).2.pending = _
    change (HostAnswer.error? (.signed call (session.signRequest call).1)).isSome = true at failed
    rcases session.signRequest_cases call with ⟨error, refused⟩ | ⟨_, _, _, result⟩
    · rw [refused]
    · rw [result] at failed
      cases failed
  | verify bytes resolver =>
    change (session.verifyResponse bytes resolver).2.pending = _
    change (HostAnswer.error?
      (.verified bytes (session.verifyResponse bytes resolver).1)).isSome = true at failed
    rcases session.verifyResponse_cases bytes resolver with ⟨error, refused⟩ | ⟨_, _, _, result⟩
    · rw [refused]
    · rw [result] at failed
      cases failed

/-- In every run of a fresh session, an accepted response carries the hash of the request that
is outstanding under its id; between two accepted responses under one id a request was
signed under it; and a call that fails leaves the pending requests as they are. -/
theorem responses_answer_outstanding (serde : SerdeJson) (signer : HostSigner)
    (requestLifetimeSecs : I64) (calls : List HostCall) :
    (∀ before answer after,
        machine.answers (HostSession.new signer requestLifetimeSecs) calls =
          before ++ answer :: after →
        AnswersOutstanding requestLifetimeSecs.val before answer) ∧
      (∀ before first between second after id,
        machine.answers (HostSession.new signer requestLifetimeSecs) calls =
          before ++ first :: between ++ second :: after →
        Accepts id first → Accepts id second →
          ∃ signed ∈ between, ∃ entry, Signs requestLifetimeSecs.val id entry signed) ∧
      machine.Allowed KeepsOnError (HostSession.new signer requestLifetimeSecs) calls := by
  have every := machine.allowed_true (HostSession.new signer requestLifetimeSecs) calls
  have outstanding : ∀ before answer after,
      machine.answers (HostSession.new signer requestLifetimeSecs) calls =
        before ++ answer :: after → AnswersOutstanding requestLifetimeSecs.val before answer := by
    intro before answer after happened
    have kept : ∀ past session call, Tracks requestLifetimeSecs.val past session → True →
        Tracks requestLifetimeSecs.val (past ++ [(machine.step session call).1])
          (machine.step session call).2 :=
      fun _ _ call tracks _ => tracks_step tracks call
    have holds : ∀ past session call, Tracks requestLifetimeSecs.val past session → True →
        AnswersOutstanding requestLifetimeSecs.val past (machine.step session call).1 :=
      fun _ _ call tracks _ => answersOutstanding_step serde tracks call
    exact Machine.forall_answers kept holds (tracks_new signer requestLifetimeSecs) every happened
  refine ⟨outstanding, ?_, ?_⟩
  · intro before first between second after id happened firstAccepts secondAccepts
    exact signed_between firstAccepts secondAccepts (outstanding _ second after happened)
  · exact Machine.allowed_of_forall keepsOnError_step _ calls

end

/-! ## One request and its response -/

/-- The agent's key as a host signer. -/
def agentHost (known : List KnownSignature) : HostSigner where
  sign := referenceSignature known ((b64urlDecodeText vectorKey).getD [])
  signer := "did:example:agent-1"
  keyId := "key-1"

def echoCall : SignCall where
  id := ⟨.string "req-1", by decide⟩
  method := "tools/call"
  params := ⟨[("arguments", .object [("text", .string "hello")]), ("name", .string "echo")],
    by decide +kernel⟩
  onBehalfOf := "did:example:user-1"
  audience := "did:example:server-1"
  authorizationHash := "sha256:RBNvo1WzZ4oRRq0W9-hknpT7T8If536DEMBg9hyq_4o"
  entropy := Vector.replicate nonceBytes 0
  nowUnix := ⟨1779998400, by decide⟩

def echoPreimage : Bytes :=
  bytesOf (unsignedRequest (agentHost []) echoCall.toRequestFields "AAAAAAAAAAAAAAAAAAAAAA"
    "2026-05-28T20:00:00Z" "2026-05-28T20:05:00Z")

/-- The response to the request, with or without its signature value. -/
def echoResponse (signature : List (String × Value)) : Bytes :=
  bytesOf (.object [("id", .string "req-1"), ("jsonrpc", .string "2.0"), ("result", .object [
    ("_meta", .object [(responseMetaKey, .object [
      ("issued_at", .string "2026-05-28T20:01:00Z"),
      ("request_hash", .string "sha256:g70EO0qbIRTD61mha8g77L6I5imzUrKnPH_MKTnCu8k"),
      ("server_signer", .string "did:example:server-1"),
      ("signature", .object
        ([("alg", .string sigAlgEd25519), ("key_id", .string "server-key-1")] ++ signature))])]),
    ("content", .string "hello")])])

def echoRequestSignature : String :=
  "4iRJmcsZCStT02Pw5b5fkTIjM7DN5Tj8dk4XEVSt-ej0CjhuJqNA-3r7FYLqrb5sTQhgKyCalvNpW5rDBWrCAg"

def echoResponseSignature : String :=
  "9-_W5L69qLHWXDpJWbg8HZXMhy09Fm-craY0T5LgY3L9diMa6trcv7d4_8Y9UeeOeBQl6p08GocgvEXfciWNBg"

def echoSignatures : List KnownSignature :=
  [⟨vectorKey, echoPreimage, echoRequestSignature⟩,
    ⟨ClientCore.remoteKey, echoResponse [], echoResponseSignature⟩]

@[reducible] def echoCrates : Crates :=
  referenceCrates "g70EO0qbIRTD61mha8g77L6I5imzUrKnPH_MKTnCu8k" echoSignatures []

/-- The request is signed, its response arrives, and arrives again. -/
def echoCalls : List HostCall :=
  let response := echoResponse [("value", .string echoResponseSignature)]
  [.sign echoCall, .verify response ClientCore.remoteResolver,
    .verify response ClientCore.remoteResolver]

/-- The response is accepted once, for the request that was signed. -/
theorem responses_answer_outstanding_echo :
    letI := echoCrates
    (machine.answers (HostSession.withDefaults (agentHost echoSignatures)) echoCalls).map
        HostAnswer.error? = [none, none, some .missingEnvelope] ∧
      ∀ before answer after,
        machine.answers (HostSession.withDefaults (agentHost echoSignatures)) echoCalls =
          before ++ answer :: after → AnswersOutstanding 300 before answer := by
  let crates := echoCrates
  refine ⟨by decide +kernel, ?_⟩
  exact (responses_answer_outstanding (serdeJson_referenceCrates _ _ _) _
    defaultRequestLifetimeSecs echoCalls).1

end Mcps.Host
