import Mcps.Lib.Numeral
import Mcps.Proxy.SharedReplay

/-!
# The etcd store

Put-if-absent over the JSON gateway of etcd: a lease for the rest of the retention, then
a transaction that puts the key under the lease if it was never created.  A lease that
was granted for a key already there is revoked again, whatever becomes of that.
-/

namespace Mcps.Proxy

open RemoteRequest

/-- Padded base64 of the `base64` crate, in which the gateway takes keys and values. -/
class StandardBase64 where
  encode : Bytes → String

def computeTtlSecs (expiresAtUnix nowUnix : Int) : Int :=
  max (saturatingSub expiresAtUnix nowUnix) 1

def buildLeaseGrantBody (ttlSecs : Int) : Value :=
  .object [("ID", .number (numberOfInteger 0)), ("TTL", .number (numberOfInteger ttlSecs))]

def buildTxnBody (keyB64 valueB64 : String) (leaseId : Int) : Value :=
  .object
    [("compare", .array [.object [("create_revision", .string "0"), ("key", .string keyB64),
      ("result", .string "EQUAL"), ("target", .string "CREATE")]]),
    ("failure", .array []),
    ("success", .array [.object [("request_put", .object [("key", .string keyB64),
      ("lease", .string (toString leaseId)), ("value", .string valueB64)])]])]

def buildLeaseRevokeBody (leaseId : Int) : Value :=
  .object [("ID", .string (toString leaseId))]

/-- `str::parse::<i64>`. -/
def parseI64 (text : String) : Option Int := Numeral.parseSigned i64Min i64Max (textChars text)

/-- A boolean value. -/
def asBool : Value → Option Bool
  | .bool value => some value
  | _ => none

def decisionFromTxn (resp : Value) : ReplayDecision :=
  if ((resp.get "succeeded").bind asBool).getD false then .fresh else .replay

section

variable [Crates]

def parseLeaseId (resp : Value) : Except ReplayStoreError Int := do
  let raw ← (resp.get "ID").okOr (.unavailable "etcd lease/grant response missing ID")
  let id ← (match raw with
    | .string text => parseI64 text
    | .number number => number.asI64
    | _ => none).okOr
      (.unavailable ("etcd lease/grant ID not an integer: " ++ Crates.valueToString raw))
  if id = 0 then
    throw (.unavailable "etcd lease/grant returned lease id 0 (unleased put would never expire)")
  return id

namespace EtcdAtomicReplayStore

variable [StandardBase64]

def insertIfAbsent (key : String) (expiresAtUnix _nowUnix : Int) :
    Remote (Except ReplayStoreError ReplayDecision) := do
  let nowUnix ← Program.request storeClock
  if isStalePreStore expiresAtUnix nowUnix then
    return .error (staleError expiresAtUnix nowUnix)
  else
    let ttlSecs := computeTtlSecs expiresAtUnix nowUnix
    match ← Program.request (etcdPost "v3/lease/grant" (buildLeaseGrantBody ttlSecs)) with
    | .error e => return .error e
    | .ok leaseResp =>
      match parseLeaseId leaseResp with
      | .error e => return .error e
      | .ok leaseId =>
        let keyB64 := StandardBase64.encode (textBytes key)
        let valueB64 := StandardBase64.encode [1]
        match ← Program.request
            (etcdPost "v3/kv/txn" (buildTxnBody keyB64 valueB64 leaseId)) with
        | .error e => return .error e
        | .ok txnResp =>
          match decisionFromTxn txnResp with
          | .fresh => return .ok .fresh
          | .replay =>
            let _ ← Program.request
              (etcdPost "v3/lease/revoke" (buildLeaseRevokeBody leaseId))
            return .ok .replay

/-! ## What a call exchanges -/

/-- The three requests of a call. -/
abbrev leaseGrant (expiresAtUnix nowUnix : Int) : RemoteRequest :=
  etcdPost "v3/lease/grant" (buildLeaseGrantBody (computeTtlSecs expiresAtUnix nowUnix))

abbrev putTxn (key : String) (leaseId : Int) : RemoteRequest :=
  etcdPost "v3/kv/txn" (buildTxnBody (StandardBase64.encode (textBytes key))
    (StandardBase64.encode [1]) leaseId)

abbrev leaseRevoke (leaseId : Int) : RemoteRequest :=
  etcdPost "v3/lease/revoke" (buildLeaseRevokeBody leaseId)

/-- How far a call can get: the clock, then a grant while the request is not stale, then
the transaction under the lease that was granted, then its revocation after a replay. -/
inductive Conversation (key : String) (retainUntil : Int) : List RemoteExchange → Prop where
  | nothing : Conversation key retainUntil []
  | clock (now : Int) : Conversation key retainUntil [⟨storeClock, now⟩]
  | grant {now : Int} (live : isStalePreStore retainUntil now = false)
      (reply : Except ReplayStoreError Value) :
      Conversation key retainUntil [⟨storeClock, now⟩, ⟨leaseGrant retainUntil now, reply⟩]
  | txn {now : Int} {leaseResp : Value} {leaseId : Int}
      (live : isStalePreStore retainUntil now = false) (granted : parseLeaseId leaseResp = .ok leaseId)
      (reply : Except ReplayStoreError Value) :
      Conversation key retainUntil [⟨storeClock, now⟩, ⟨leaseGrant retainUntil now, .ok leaseResp⟩,
        ⟨putTxn key leaseId, reply⟩]
  | revoke {now : Int} {leaseResp txnResp : Value} {leaseId : Int}
      (live : isStalePreStore retainUntil now = false) (granted : parseLeaseId leaseResp = .ok leaseId)
      (replay : decisionFromTxn txnResp = .replay) (reply : Except ReplayStoreError Value) :
      Conversation key retainUntil [⟨storeClock, now⟩, ⟨leaseGrant retainUntil now, .ok leaseResp⟩,
        ⟨putTxn key leaseId, .ok txnResp⟩, ⟨leaseRevoke leaseId, reply⟩]

variable {key : String} {retainUntil nowUnix : Int} {exchanges : List RemoteExchange}

theorem conversation_of_follows
    (follows : (insertIfAbsent key retainUntil nowUnix).Follows exchanges) :
    Conversation key retainUntil exchanges := by
  rw [insertIfAbsent, Program.follows_request_bind] at follows
  rcases follows with rfl | ⟨now, rest, rfl, follows⟩
  · exact .nothing
  split at follows
  next =>
    cases follows
    exact .clock now
  next live =>
    replace live := Bool.eq_false_iff.mpr live
    rw [Program.follows_request_bind] at follows
    rcases follows with rfl | ⟨granted, rest, rfl, follows⟩
    · exact .clock now
    cases granted with
    | error e =>
      cases follows
      exact .grant live _
    | ok leaseResp =>
      cases parsed : parseLeaseId leaseResp with
      | error e =>
        simp only [parsed] at follows
        cases follows
        exact .grant live _
      | ok leaseId =>
        simp only [parsed, Program.follows_request_bind] at follows
        rcases follows with rfl | ⟨put, rest, rfl, follows⟩
        · exact .grant live _
        cases put with
        | error e =>
          cases follows
          exact .txn live parsed _
        | ok txnResp =>
          cases decided : decisionFromTxn txnResp with
          | fresh =>
            simp only [decided] at follows
            cases follows
            exact .txn live parsed _
          | replay =>
            simp only [decided] at follows
            rcases follows with rfl | ⟨revoked, rest, rfl, rfl⟩
            · exact .txn live parsed _
            · exact .revoke live parsed decided revoked

/-- How a call ends: before the store is asked, with the failure of a request, or with the
decision of the transaction. -/
inductive Outcome (key : String) (retainUntil : Int) :
    List RemoteExchange → Except ReplayStoreError ReplayDecision → Prop where
  | stale {now : Int} (stale : isStalePreStore retainUntil now = true) :
      Outcome key retainUntil [⟨storeClock, now⟩] (.error (staleError retainUntil now))
  | ungranted {now : Int} (live : isStalePreStore retainUntil now = false) (e : ReplayStoreError) :
      Outcome key retainUntil [⟨storeClock, now⟩, ⟨leaseGrant retainUntil now, .error e⟩] (.error e)
  | unleased {now : Int} {leaseResp : Value} {e : ReplayStoreError}
      (live : isStalePreStore retainUntil now = false) (refused : parseLeaseId leaseResp = .error e) :
      Outcome key retainUntil [⟨storeClock, now⟩, ⟨leaseGrant retainUntil now, .ok leaseResp⟩]
        (.error e)
  | unanswered {now : Int} {leaseResp : Value} {leaseId : Int}
      (live : isStalePreStore retainUntil now = false)
      (granted : parseLeaseId leaseResp = .ok leaseId) (e : ReplayStoreError) :
      Outcome key retainUntil [⟨storeClock, now⟩, ⟨leaseGrant retainUntil now, .ok leaseResp⟩,
        ⟨putTxn key leaseId, .error e⟩] (.error e)
  | fresh {now : Int} {leaseResp txnResp : Value} {leaseId : Int}
      (live : isStalePreStore retainUntil now = false)
      (granted : parseLeaseId leaseResp = .ok leaseId) (put : decisionFromTxn txnResp = .fresh) :
      Outcome key retainUntil [⟨storeClock, now⟩, ⟨leaseGrant retainUntil now, .ok leaseResp⟩,
        ⟨putTxn key leaseId, .ok txnResp⟩] (.ok .fresh)
  | replay {now : Int} {leaseResp txnResp : Value} {leaseId : Int}
      (live : isStalePreStore retainUntil now = false)
      (granted : parseLeaseId leaseResp = .ok leaseId) (held : decisionFromTxn txnResp = .replay)
      (reply : Except ReplayStoreError Value) :
      Outcome key retainUntil [⟨storeClock, now⟩, ⟨leaseGrant retainUntil now, .ok leaseResp⟩,
        ⟨putTxn key leaseId, .ok txnResp⟩, ⟨leaseRevoke leaseId, reply⟩] (.ok .replay)

variable {result : Except ReplayStoreError ReplayDecision}

theorem outcome_of_runs (runs : (insertIfAbsent key retainUntil nowUnix).Runs exchanges result) :
    Outcome key retainUntil exchanges result := by
  rw [insertIfAbsent, Program.runs_request_bind] at runs
  obtain ⟨_, rest, rfl, runs⟩ := runs
  split at runs
  next stale =>
    obtain ⟨rfl, rfl⟩ := runs
    exact .stale stale
  next live =>
    replace live := Bool.eq_false_iff.mpr live
    rw [Program.runs_request_bind] at runs
    obtain ⟨granted, rest, rfl, runs⟩ := runs
    cases granted with
    | error e =>
      obtain ⟨rfl, rfl⟩ := runs
      exact .ungranted live e
    | ok leaseResp =>
      cases parsed : parseLeaseId leaseResp with
      | error e =>
        simp only [parsed] at runs
        obtain ⟨rfl, rfl⟩ := runs
        exact .unleased live parsed
      | ok leaseId =>
        simp only [parsed, Program.runs_request_bind] at runs
        obtain ⟨put, rest, rfl, runs⟩ := runs
        cases put with
        | error e =>
          obtain ⟨rfl, rfl⟩ := runs
          exact .unanswered live parsed e
        | ok txnResp =>
          cases decided : decisionFromTxn txnResp with
          | fresh =>
            simp only [decided] at runs
            obtain ⟨rfl, rfl⟩ := runs
            exact .fresh live parsed decided
          | replay =>
            simp only [decided] at runs
            obtain ⟨reply, rest, rfl, rfl, rfl⟩ := runs
            exact .replay live parsed decided reply

theorem Outcome.runs (outcome : Outcome key retainUntil exchanges result) (nowUnix : Int) :
    (insertIfAbsent key retainUntil nowUnix).Runs exchanges result := by
  cases outcome with
  | stale stale => simp [insertIfAbsent, stale]
  | ungranted live e => simp [insertIfAbsent, live]
  | unleased live refused => simp [insertIfAbsent, live, refused]
  | unanswered live granted e => simp [insertIfAbsent, live, granted]
  | fresh live granted put => simp [insertIfAbsent, live, granted, put]
  | replay live granted held reply => simp [insertIfAbsent, live, granted, held]

theorem runs_insertIfAbsent_fresh
    (runs : (insertIfAbsent key retainUntil nowUnix).Runs exchanges (.ok .fresh)) :
    ∃ now leaseResp leaseId txnResp, isStalePreStore retainUntil now = false ∧
      parseLeaseId leaseResp = .ok leaseId ∧ decisionFromTxn txnResp = .fresh ∧
      exchanges = [⟨storeClock, now⟩, ⟨leaseGrant retainUntil now, .ok leaseResp⟩,
        ⟨putTxn key leaseId, .ok txnResp⟩] := by
  cases outcome_of_runs runs with
  | fresh live granted put => exact ⟨_, _, _, _, live, granted, put, rfl⟩

end EtcdAtomicReplayStore

end

end Mcps.Proxy
