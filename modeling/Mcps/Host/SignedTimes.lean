import Mcps.ClientCore.Acceptance
import Mcps.Core.RawValue
import Mcps.Core.Timestamps
import Mcps.Host.Session

/-!
# The times a session signs

A session writes its clock and the end of the request's lifetime into the envelope it signs,
and refuses only a sum that leaves the range of a 64-bit integer.  The calendar is narrower
than that: the reader of timestamps takes years of four digits.  So the times in a signed
envelope are those of the clock exactly when both lie in the years 0000 to 9999.
-/

namespace Mcps.Host

open Option Except

/-! ## The envelope in the bytes -/

/-- The envelope with its signature value. -/
def signedEnvelope (host : HostSigner) (fields : RequestFields)
    (nonce issuedAt expiresAt signature : String) : Value :=
  (unsignedEnvelope host fields nonce issuedAt expiresAt).updateMember "signature"
    (Json.insertMember "value" (.string signature))

section

variable (host : HostSigner) (fields : RequestFields) (nonce issuedAt expiresAt signature : String)

theorem sortedKeys_signedEnvelope :
    (signedEnvelope host fields nonce issuedAt expiresAt signature).SortedKeys := by
  have unsigned : (unsignedEnvelope host fields nonce issuedAt expiresAt).SortedKeys := by
    simp [unsignedEnvelope, Assoc.Ordered]
    decide
  apply unsigned.updateMember
  intro block sorted
  cases block with
  | object members => exact sorted.insert "value" (Json.sortedKeys_string signature)
  | _ => exact sorted

/-- The request that is written to the wire. -/
def signedRequest : MapValue :=
  ⟨ClientCore.requestWith fields.id.val fields.method fields.params.val
      (signedEnvelope host fields nonce issuedAt expiresAt signature),
    ClientCore.sortedKeys_requestWith fields.id.property fields.method fields.params.property
      (sortedKeys_signedEnvelope host fields nonce issuedAt expiresAt signature)⟩

theorem graftSignature_unsignedRequest :
    ClientCore.graftSignature (unsignedRequest host fields nonce issuedAt expiresAt) signature =
      (signedRequest host fields nonce issuedAt expiresAt signature).val :=
  ClientCore.modifyAt_requestWith fields.params.property _ _ _ _

theorem locateEnvelope_mapNumbers {message envelope : Value} {outer metaKey : String}
    (image : Number → Number) (located : locateEnvelope message outer metaKey = .ok envelope) :
    locateEnvelope (message.mapNumbers image) outer metaKey = .ok (envelope.mapNumbers image) := by
  obtain ⟨_, found, here⟩ := bind_eq_some_iff.mp (okOr_eq_ok.mp located)
  obtain ⟨_, around, inside⟩ := bind_eq_some_iff.mp found
  rw [locateEnvelope, Json.get_mapNumbers, around, map_some, bind_some,
    Json.get_mapNumbers, inside, map_some, bind_some, Json.get_mapNumbers, here]
  rfl

theorem extractRequestEnvelope_signed (image : Number → Number) :
    extractRequestEnvelope
        ((signedRequest host fields nonce issuedAt expiresAt signature).val.mapNumbers image) =
      .ok ⟨versionDraft01, host.signer, fields.onBehalfOf, fields.audience,
        fields.authorizationHash, nonce, issuedAt, expiresAt,
        ⟨sigAlgEd25519, host.keyId, some signature⟩⟩ := by
  have located : locateEnvelope
      ((signedRequest host fields nonce issuedAt expiresAt signature).val.mapNumbers image)
      "params" requestMetaKey =
        .ok (signedEnvelope host fields nonce issuedAt expiresAt signature) :=
    locateEnvelope_mapNumbers image (ClientCore.locateEnvelope_requestWith _ _ _)
  have checked : deserializeEnvelope requestEnvelopeFields
      (signedEnvelope host fields nonce issuedAt expiresAt signature) = .ok () :=
    deserializeEnvelope_eq_ok.mpr rfl
  rw [extractRequestEnvelope, located]
  rfl

end

section

variable [Crates]

theorem HostSession.signed_request {session : HostSession} {call : SignCall} {bytes : Bytes}
    {entry : PendingRequest} (signed : session.signed call = .ok (bytes, entry)) :
    ∃ nonce signature read, Crates.fromSlice bytes = some read ∧
      Crates.toVec (signedRequest session.signer call.toRequestFields nonce
        (unixToRfc3339Utc call.nowUnix.val)
        (unixToRfc3339Utc (call.nowUnix.val + session.requestLifetimeSecs.val)) signature).val =
        some bytes := by
  simp only [HostSession.signed, throw_eq_error, bind_error, bind_eq_ok, guard_eq_ok,
    okOr_eq_ok] at signed
  obtain ⟨_, _, added, _, written, read, parsed, _, _, ⟨⟩⟩ := signed
  obtain ⟨_, _, written⟩ := bind_eq_ok.mp written
  have request := okOr_eq_ok.mp written
  rw [graftSignature_unsignedRequest, val_of_checkedAdd added] at request
  exact ⟨_, _, read, parsed, request⟩

/-- The envelope in the bytes has these times. -/
def CarriesTimes (bytes : Bytes) (issued expires : Int) : Prop :=
  ∃ value envelope, Crates.fromSlice bytes = some value ∧
    extractRequestEnvelope value.val = .ok envelope ∧
    parseRfc3339Utc envelope.issuedAt = .ok issued ∧
    parseRfc3339Utc envelope.expiresAt = .ok expires

/-- The times in a signed request are those of the clock exactly when both lie in a year of
four digits. -/
theorem carriesTimes_iff {spell : Number → List Char} {numberOf : List Char → Option Number}
    (writes : SerdeWrites spell numberOf) (reads : SerdeDefaults numberOf) (session : HostSession)
    (call : SignCall) (bytes : Bytes) (signed : (session.signRequest call).1 = .ok bytes) :
    CarriesTimes bytes call.nowUnix.val
        (call.nowUnix.val + session.requestLifetimeSecs.val) ↔
      FourDigitYear call.nowUnix.val ∧
        FourDigitYear (call.nowUnix.val + session.requestLifetimeSecs.val) := by
  rcases session.signRequest_cases call with ⟨error, refused⟩ | ⟨wire, entry, made, result⟩
  · rw [refused] at signed
    cases signed
  · rw [result] at signed
    cases signed
    obtain ⟨nonce, signature, read, taken, written⟩ := HostSession.signed_request made
    obtain ⟨image, same⟩ := writes.exists_mapNumbers reads written taken
    have extracted := extractRequestEnvelope_signed session.signer call.toRequestFields nonce
      (unixToRfc3339Utc call.nowUnix.val)
      (unixToRfc3339Utc (call.nowUnix.val + session.requestLifetimeSecs.val)) signature image
    rw [← same] at extracted
    rw [← parseRfc3339Utc_unixToRfc3339Utc, ← parseRfc3339Utc_unixToRfc3339Utc]
    constructor
    · intro ⟨value, envelope, again, found, issued, expires⟩
      cases taken.symm.trans again
      cases extracted.symm.trans found
      exact ⟨issued, expires⟩
    · intro ⟨issued, expires⟩
      exact ⟨read, _, taken, extracted, issued, expires⟩

end

/-! ## A short and a long lifetime -/

/-- The agent's request, expiring at this time, with its signature. -/
def echoRequest (expiresAt signature : String) : MapValue :=
  signedRequest (agentHost []) echoCall.toRequestFields "AAAAAAAAAAAAAAAAAAAAAA"
    "2026-05-28T20:00:00Z" expiresAt signature

/-- Crates that write one request, with its digest. -/
@[reducible] def timesCrates (digest : String) (request : MapValue) : Crates :=
  defaultsReader (documentCrates (referenceCrates digest [] []) [(bytesOf request.val, request)])

@[reducible] def shortCrates : Crates :=
  timesCrates "g70EO0qbIRTD61mha8g77L6I5imzUrKnPH_MKTnCu8k"
    (echoRequest "2026-05-28T20:05:00Z" echoRequestSignature)

/-- Five minutes after its clock the request expires, and the envelope says so. -/
theorem carriesTimes_short :
    letI := shortCrates
    ∃ bytes, ((HostSession.withDefaults (agentHost echoSignatures)).signRequest echoCall).1 =
        .ok bytes ∧
      CarriesTimes bytes 1779998400 1779998700 := by
  let crates := shortCrates
  let bytes := bytesOf (echoRequest "2026-05-28T20:05:00Z" echoRequestSignature).val
  have signed : ((HostSession.withDefaults (agentHost echoSignatures)).signRequest echoCall).1 =
      .ok bytes := by
    decide +kernel
  refine ⟨bytes, signed, ?_⟩
  exact (carriesTimes_iff (serdeWrites_defaultsReader _ (by decide +kernel))
    (serdeDefaults_defaultsReader _) _ echoCall bytes signed).mpr (by decide +kernel)

def farExpiry : String := "33715-02-22T21:46:40Z"

/-- The agent's signature over the request that expires in the far future. -/
def farSignature : String :=
  "LKIeo7WrNZTCMNUmqd5a5oKEV2-jFTS1wad_FhojxyQbQMJjvN059pcQwk6QhTkkZwKNWUUrTSa6cJ4svcJ5Ag"

def farHost : HostSigner :=
  agentHost [⟨vectorKey, bytesOf (unsignedRequest (agentHost []) echoCall.toRequestFields
    "AAAAAAAAAAAAAAAAAAAAAA" "2026-05-28T20:00:00Z" farExpiry), farSignature⟩]

@[reducible] def farCrates : Crates :=
  timesCrates "uv6XuxjCVGsgKUIR1s818nWH6sfHMStvF67PF-_55wQ" (echoRequest farExpiry farSignature)

/-- A session with a lifetime of a million million seconds signs a request whose expiry has a
year of five digits, and that is not read as a time at all. -/
theorem signRequest_unreadable_expiry :
    letI := farCrates
    ∃ bytes, ((HostSession.new farHost ⟨1000000000000, by decide⟩).signRequest echoCall).1 =
        .ok bytes ∧
      (Crates.fromSlice bytes).map (fun value =>
        (extractRequestEnvelope value.val).map RequestEnvelope.expiresAt) =
          some (.ok farExpiry) ∧
      parseRfc3339Utc farExpiry = .error .expiredRequest ∧
      ¬CarriesTimes bytes 1779998400 1001779998400 := by
  let crates := farCrates
  let bytes := bytesOf (echoRequest farExpiry farSignature).val
  have evaluated :
      ((HostSession.new farHost ⟨1000000000000, by decide⟩).signRequest echoCall).1 = .ok bytes ∧
      (Crates.fromSlice bytes).map (fun value =>
        (extractRequestEnvelope value.val).map RequestEnvelope.expiresAt) =
          some (.ok farExpiry) ∧
      parseRfc3339Utc farExpiry = .error .expiredRequest := by
    decide +kernel
  obtain ⟨signed, written, unread⟩ := evaluated
  refine ⟨bytes, signed, written, unread, ?_⟩
  intro ⟨value, envelope, taken, found, _, expires⟩
  rw [taken, Option.map_some, found] at written
  have same : envelope.expiresAt = farExpiry := Except.ok.inj (Option.some.inj written)
  rw [same, unread] at expires
  cases expires

end Mcps.Host
