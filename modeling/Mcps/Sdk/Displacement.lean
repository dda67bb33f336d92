import Mcps.Lib.Transition
import Mcps.Sdk.Reference

/-!
# Runs of inbound lines

A connection hands its inbound lines to `verifyInbound` one after the other.  A line that
looks like the response to an outstanding request takes the request out of the correlation
store, whether it verifies or not; every other line leaves the request outstanding.  So
the genuine response is accepted exactly if it is the first to look like one.
-/

namespace Mcps.Sdk

open ClientCore Assoc

/-- A line and the time it is handled at. -/
structure Inbound where
  line : Bytes
  nowUnix : Int

/-! ## Lines of the exchange -/

/-- An unsigned line with the id of the call. -/
def forgedLine : Bytes := textBytes "\x7b\"id\":\"req-1\",\"result\":\x7b\x7d\x7d"

/-- An unsigned line with another id. -/
def strayLine : Bytes := textBytes "\x7b\"id\":\"req-2\",\"result\":\x7b\x7d\x7d"

/-- The remote end's signed response to the call. -/
def genuineLine : Bytes := replyWith successMember successSignature

def genuineMembers : List (String × PyValue) :=
  letI := callPython
  ((loads genuineLine).bind dictMembers).toOption.getD []

/-- What verification makes of the genuine line. -/
def genuineVerified : VerifiedResponse :=
  ⟨"did:example:server-1", "server-key-1", callSigned.requestHash⟩

/-! ## The inbound machine -/

section

variable [Crates] [Python]

/-- The adapter's inbound side as a machine over the correlation store. -/
def inbound (config : McpsConfig) :
    Machine CorrelationStore Inbound (Except PyException InboundOutcome) where
  step correlation event := verifyInbound config correlation event.line event.nowUnix

/-- A line that is read as a response with a correlation id: a dict without `method` whose
`id` is not null and has that text. -/
def RespondsTo (correlationId : String) (line : Bytes) (members : List (String × PyValue)) :
    Prop :=
  (loads line).bind dictMembers = .ok members ∧ Assoc.find? "method" members = none ∧
    ∃ rid, Assoc.find? "id" members = some rid ∧ rid ≠ .null ∧ str rid = correlationId

/-! ## One line -/

variable {correlationId : String} {line : Bytes} {members : List (String × PyValue)}

theorem verifyInbound_of_respondsTo (responds : RespondsTo correlationId line members)
    (config : McpsConfig) (correlation : CorrelationStore) (nowUnix : Int) :
    verifyInbound config correlation line nowUnix =
      handleResponse config correlation line (.object members) correlationId nowUnix := by
  obtain ⟨read, noMethod, _, found, present, text⟩ := responds
  simp only [verifyInbound, read, noMethod, found, Option.getD_some, Option.isSome_none,
    Bool.false_eq_true, ↓reduceIte, if_neg present, text]

theorem find?_of_respondsTo (responds : RespondsTo correlationId line members) (config : McpsConfig)
    (correlation : CorrelationStore) (nowUnix : Int) :
    find? correlationId (verifyInbound config correlation line nowUnix).2.pending =
      none := by
  rw [verifyInbound_of_respondsTo responds, pending_handleResponse]
  exact find?_erase_self correlationId _

theorem find?_of_not_respondsTo (other : ∀ members, ¬ RespondsTo correlationId line members)
    (config : McpsConfig) (correlation : CorrelationStore) (nowUnix : Int) :
    find? correlationId (verifyInbound config correlation line nowUnix).2.pending =
      find? correlationId correlation.pending := by
  unfold verifyInbound
  split
  next => rfl
  next members read =>
    dsimp only
    split
    next => rfl
    next noMethod =>
      split
      next => rfl
      next present =>
        rw [pending_handleResponse]
        apply find?_erase_ne
        intro same
        cases found : find? "id" members with
        | none =>
          rw [found] at present
          exact present rfl
        | some rid =>
          rw [found] at present same
          exact other members ⟨read, Option.not_isSome_iff_eq_none.mp noMethod, rid, found,
            present, same.symm⟩

/-! ## Runs -/

/-- A line that responds to an id, whatever it carries. -/
def Displaces (correlationId : String) (event : Inbound) : Prop :=
  ∃ members, RespondsTo correlationId event.line members

theorem find?_after (config : McpsConfig) (correlationId : String)
    (correlation : CorrelationStore) (events : List Inbound) (entry : PendingRequest) :
    find? correlationId ((inbound config).after correlation events).pending = some entry ↔
      find? correlationId correlation.pending = some entry ∧
        ∀ event ∈ events, ¬ Displaces correlationId event := by
  induction events generalizing correlation with
  | nil => simp [Machine.after]
  | cons event rest ih =>
    rw [Machine.after, ih]
    cases Classical.em (Displaces correlationId event) with
    | inl displaces =>
      obtain ⟨members, responds⟩ := displaces
      have gone := find?_of_respondsTo responds config correlation event.nowUnix
      simp [inbound, gone, show Displaces correlationId event from ⟨members, responds⟩]
    | inr quiet =>
      have same := find?_of_not_respondsTo (not_exists.mp quiet) config correlation
        event.nowUnix
      simp [inbound, same, quiet]

/-- A request that was signed and sent is outstanding under the text of its id. -/
theorem find?_signOutbound {config : McpsConfig} {correlation : CorrelationStore}
    {message : SessionMessage} {request : OutboundRequest} {signed : SignedRequest}
    {nowUnix expiresUnix : Int} {nonce : String} {wire : Bytes}
    (asked : requestFields message = some request)
    (signs : signRequest config request nowUnix nonce expiresUnix = .ok signed)
    (sent : (signOutbound config correlation message nowUnix nonce expiresUnix).1 = .ok wire) :
    find? (str request.id)
        (signOutbound config correlation message nowUnix nonce expiresUnix).2.pending =
      some (pendingRequest config request signed nonce expiresUnix) := by
  simp only [signOutbound, asked, signs] at sent ⊢
  split at sent
  next => cases sent
  next rest registered =>
    have entered := CorrelationStore.find?_register (congrArg Prod.fst registered)
    rw [registered] at entered
    rw [entered.2]
    exact find?_cons_self _ _ _

/-- The genuine response to a request is accepted exactly if no line before it responded
to the request's id, and the connection can accept anything: its mode is known and the
session takes the stripped message. -/
theorem verifyInbound_accepts_iff (config : McpsConfig) (correlation : CorrelationStore)
    (message : SessionMessage) (request : OutboundRequest) (signed : SignedRequest)
    (nowUnix expiresUnix : Int) (nonce : String) (wire : Bytes)
    (asked : requestFields message = some request)
    (signs : signRequest config request nowUnix nonce expiresUnix = .ok signed)
    (sent : (signOutbound config correlation message nowUnix nonce expiresUnix).1 = .ok wire)
    (before : List Inbound) (genuine : Inbound) (members : List (String × PyValue))
    (verified : VerifiedResponse) (responds : RespondsTo (str request.id) genuine.line members)
    (verifies : responseEvidence config signed.requestHash genuine.line = .ok verified)
    (inTime : genuine.nowUnix ≤ expiresUnix) :
    (∃ delivered, ((inbound config).step ((inbound config).after
        (signOutbound config correlation message nowUnix nonce expiresUnix).2 before)
        genuine).1 = .ok (.accept delivered)) ↔
      (∀ earlier ∈ before, ¬ Displaces (str request.id) earlier) ∧
        (∃ mode, parseMode config.enforcementMode = .ok mode) ∧
        Python.validateMessage (stripEnvelope (.object members)) = .ok () := by
  have registered := find?_signOutbound asked signs sent
  have outstanding := find?_after config (str request.id)
    (signOutbound config correlation message nowUnix nonce expiresUnix).2 before
  have delivers := @deliver_of_verified _ _ config
    (pendingRequest config request signed nonce expiresUnix) _ _ verifies (.object members)
  rw [← delivers]
  simp only [inbound, verifyInbound_of_respondsTo responds, handleResponse_eq_accept]
  constructor
  · rintro ⟨delivered, entry, ⟨found, _⟩, accepted⟩
    rcases (outstanding entry).mp found with ⟨held, quiet⟩
    cases registered.symm.trans held
    exact ⟨quiet, delivered, accepted⟩
  · rintro ⟨quiet, delivered, accepted⟩
    exact ⟨delivered, _, ⟨(outstanding _).mpr ⟨registered, quiet⟩, inTime⟩, accepted⟩

end

/-- The genuine response after a stray line, with every condition of the theorem met. -/
theorem verifyInbound_accepts_genuineLine :
    letI := callCrates
    letI := callPython
    responseEvidence callConfig callSigned.requestHash genuineLine = .ok genuineVerified ∧
      ((∃ delivered, ((inbound callConfig).step ((inbound callConfig).after callStore
          [⟨strayLine, 1779998400⟩]) ⟨genuineLine, 1779998401⟩).1 = .ok (.accept delivered)) ↔
        (∀ earlier ∈ [Inbound.mk strayLine 1779998400], ¬ Displaces "req-1" earlier) ∧
          (∃ mode, parseMode callConfig.enforcementMode = .ok mode) ∧
          Python.validateMessage (stripEnvelope (.object genuineMembers)) = .ok ()) := by
  let crates := callCrates
  let python := callPython
  have verifies : responseEvidence callConfig callSigned.requestHash genuineLine =
      .ok genuineVerified := by
    decide +kernel
  have sent : (signOutbound callConfig .new callMessage 1779998400
      "Zm9vYmFyYmF6cXV4MTIzNDU2Nzg5MA" 1779998700).1 = .ok callSigned.wireBytes := by
    decide +kernel
  have responds : RespondsTo "req-1" genuineLine genuineMembers := by
    refine ⟨?_, ?_, .string "req-1", ?_, nofun, rfl⟩
    all_goals decide +kernel
  exact ⟨verifies, verifyInbound_accepts_iff callConfig .new callMessage callOutbound callSigned _
    _ _ _ rfl signRequest_call sent _ _ _ _ responds verifies (by decide)⟩

/-- The forged line is rejected, and then so is the genuine one. -/
theorem verifyInbound_rejects_after_forgery :
    letI := callCrates
    letI := callPython
    responseEvidence callConfig callSigned.requestHash genuineLine = .ok genuineVerified ∧
      responseEvidence callConfig callSigned.requestHash forgedLine = .error .missingEnvelope ∧
      (inbound callConfig).answers callStore [⟨forgedLine, 1779998400⟩, ⟨genuineLine, 1779998401⟩] =
        [.ok (.reject "mcps.missing_envelope"), .ok (.reject "mcps.response_hash_mismatch")] := by
  let crates := callCrates
  let python := callPython
  decide +kernel

end Mcps.Sdk
