import Mcps.Proxy.EtcdStore

/-!
# What the etcd store decides on

The decision of a call is that of the transaction, whatever fails around it.  Fresh needs a
lease with an id and a transaction under that lease that put the key where there was none;
a replay is a transaction that answered anything else, and the revocation of the lease that
follows has no say in it.
-/

namespace Mcps.Proxy

open RemoteRequest

/-! ## Replies and requests -/

/-- The reply grants a lease with an integer id other than zero. -/
structure GrantsLease (reply : Value) (leaseId : Int) : Prop where
  integer : (∃ text, reply.get "ID" = some (.string text) ∧ parseI64 text = some leaseId) ∨
    ∃ number, reply.get "ID" = some (.number number) ∧ number.asI64 = some leaseId
  nonzero : leaseId ≠ 0

/-- The transaction puts a key under a lease if the key was never created. -/
structure PutsIfAbsent (body : Value) (keyB64 : String) (leaseId : Int) : Prop where
  compares : ∃ comparison, body.get "compare" = some (.array [comparison]) ∧
    comparison.get "key" = some (.string keyB64) ∧
    comparison.get "target" = some (.string "CREATE") ∧
    comparison.get "result" = some (.string "EQUAL") ∧
    comparison.get "create_revision" = some (.string "0")
  puts : ∃ operation put, body.get "success" = some (.array [operation]) ∧
    operation.get "request_put" = some put ∧ put.get "key" = some (.string keyB64) ∧
    put.get "lease" = some (.string (toString leaseId))
  nothingElse : body.get "failure" = some (.array [])

/-- The transaction reports that its comparison held. -/
def Succeeds (reply : Value) : Prop := reply.get "succeeded" = some (.bool true)

def RemoteRequest.isEtcdPost : RemoteRequest → Bool
  | etcdPost _ _ => true
  | _ => false

theorem putsIfAbsent_buildTxnBody (keyB64 valueB64 : String) (leaseId : Int) :
    PutsIfAbsent (buildTxnBody keyB64 valueB64 leaseId) keyB64 leaseId :=
  ⟨⟨_, rfl, rfl, rfl, rfl, rfl⟩, ⟨_, _, rfl, rfl, rfl, rfl⟩, rfl⟩

theorem decisionFromTxn_eq_fresh {reply : Value} :
    decisionFromTxn reply = .fresh ↔ Succeeds reply := by
  unfold decisionFromTxn Succeeds
  cases reported : reply.get "succeeded" with
  | none => simp
  | some value =>
    cases value with
    | bool flag => cases flag <;> simp [asBool]
    | _ => simp [asBool]

theorem decisionFromTxn_eq_replay {reply : Value} :
    decisionFromTxn reply = .replay ↔ ¬ Succeeds reply := by
  rw [← decisionFromTxn_eq_fresh]
  cases decisionFromTxn reply <;> simp

theorem parseLeaseId_eq_ok [Crates] {reply : Value} {leaseId : Int} :
    parseLeaseId reply = .ok leaseId ↔ GrantsLease reply leaseId := by
  constructor
  · intro parsed
    obtain ⟨raw, found, parsed⟩ := Except.bind_eq_ok.mp parsed
    obtain ⟨_, read, parsed⟩ := Except.bind_eq_ok.mp parsed
    obtain ⟨nonzero, same⟩ := Except.guard_eq_ok.mp parsed
    cases same
    rw [Option.okOr_eq_ok] at found read
    refine ⟨?_, nonzero⟩
    cases raw with
    | string text => exact .inl ⟨text, found, read⟩
    | number number => exact .inr ⟨number, found, read⟩
    | _ => cases read
  · intro grants
    cases grants.integer with
    | inl spelled =>
      obtain ⟨text, found, read⟩ := spelled
      simp [parseLeaseId, found, read, grants.nonzero]
    | inr plain =>
      obtain ⟨number, found, read⟩ := plain
      simp [parseLeaseId, found, read, grants.nonzero]

theorem isStalePreStore_iff {retainUntil now : Int} :
    isStalePreStore retainUntil now = true ↔ retainUntil ≤ now := by
  rw [isStalePreStore, decide_eq_true_iff, saturatingSub, clampI64, i64Min, i64Max]
  omega

theorem computeTtlSecs_of_live {retainUntil now : Int}
    (live : isStalePreStore retainUntil now = false) :
    computeTtlSecs retainUntil now = saturatingSub retainUntil now := by
  have positive : ¬ saturatingSub retainUntil now ≤ 0 := by simpa [isStalePreStore] using live
  rw [computeTtlSecs]
  omega

/-! ## Calls -/

/-- The posts to a path among some exchanges, each with the reply to it. -/
def posts (path : String) (exchanges : List RemoteExchange) :
    List (Value × Except ReplayStoreError Value) :=
  exchanges.filterMap fun
    | ⟨etcdPost target body, reply⟩ => if target = path then some (body, reply) else none
    | _ => none

section

variable [Crates] [StandardBase64]

/-- A lease with the id was granted. -/
def Leased (leaseId : Int) (exchanges : List RemoteExchange) : Prop :=
  ∃ body reply, (body, .ok reply) ∈ posts "v3/lease/grant" exchanges ∧ GrantsLease reply leaseId

/-- A transaction that puts the key under the lease succeeded. -/
def PutUnder (key : String) (leaseId : Int) (exchanges : List RemoteExchange) : Prop :=
  ∃ body reply, (body, .ok reply) ∈ posts "v3/kv/txn" exchanges ∧ Succeeds reply ∧
    PutsIfAbsent body (StandardBase64.encode (textBytes key)) leaseId

/-- The reply to a transaction arrived and does not report success. -/
def TxnUnsuccessful (exchanges : List RemoteExchange) : Prop :=
  ∃ body reply, (body, .ok reply) ∈ posts "v3/kv/txn" exchanges ∧ ¬ Succeeds reply

namespace EtcdAtomicReplayStore

variable {key : String} {retainUntil nowUnix : Int} {exchanges : List RemoteExchange}
  {result : Except ReplayStoreError ReplayDecision}

theorem Outcome.putUnder (outcome : Outcome key retainUntil exchanges (.ok .fresh)) :
    ∃ leaseId, Leased leaseId exchanges ∧ PutUnder key leaseId exchanges := by
  cases outcome with
  | fresh live granted put =>
    refine ⟨_, ⟨_, _, List.mem_singleton_self _, parseLeaseId_eq_ok.mp granted⟩, ?_⟩
    exact ⟨_, _, List.mem_singleton_self _, decisionFromTxn_eq_fresh.mp put,
      putsIfAbsent_buildTxnBody _ _ _⟩

theorem Outcome.eq_replay_iff (outcome : Outcome key retainUntil exchanges result) :
    result = .ok .replay ↔ TxnUnsuccessful exchanges := by
  cases outcome with
  | stale _ | ungranted _ _ | unleased _ _ | unanswered _ _ _ =>
    simp [TxnUnsuccessful, posts]
  | fresh live granted put =>
    simp [TxnUnsuccessful, posts, decisionFromTxn_eq_fresh.mp put]
  | replay live granted held reply =>
    simp [TxnUnsuccessful, posts, decisionFromTxn_eq_replay.mp held]

theorem Outcome.revoke_irrelevant {body : Value} {reply : Except ReplayStoreError Value}
    (outcome : Outcome key retainUntil
      (exchanges ++ [⟨etcdPost "v3/lease/revoke" body, reply⟩]) result)
    (other : Except ReplayStoreError Value) :
    Outcome key retainUntil (exchanges ++ [⟨etcdPost "v3/lease/revoke" body, other⟩]) result := by
  generalize whole : exchanges ++ [⟨etcdPost "v3/lease/revoke" body, reply⟩] = made at outcome
  have last := congrArg List.getLast? whole
  cases outcome with
  | stale _ | ungranted _ _ | unleased _ _ | unanswered _ _ _ | fresh _ _ _ => simp at last
  | @replay now leaseResp txnResp leaseId live granted held revoked =>
    have parts := List.append_inj' (show exchanges ++ [_] = [_, _, _] ++ [_] from whole) rfl
    obtain ⟨rfl, tail⟩ := parts
    cases tail
    exact replay live granted held other

theorem Conversation.sends {now : Int} (conversation : Conversation key retainUntil exchanges)
    (read : ⟨storeClock, now⟩ ∈ exchanges) :
    (retainUntil ≤ now → exchanges.countP (·.1.isEtcdPost) = 0) ∧
      exchanges.countP (·.1.isEtcdPost) ≤ 3 ∧
      ∀ post ∈ posts "v3/lease/grant" exchanges,
        post.1.get "TTL" = some (.number (numberOfInteger (saturatingSub retainUntil now))) := by
  have alive : isStalePreStore retainUntil now = false → ¬ retainUntil ≤ now := by
    intro live stale
    rw [isStalePreStore_iff.mpr stale] at live
    cases live
  have timed : isStalePreStore retainUntil now = false →
      (buildLeaseGrantBody (computeTtlSecs retainUntil now)).get "TTL" =
        some (.number (numberOfInteger (saturatingSub retainUntil now))) := by
    intro live
    rw [← computeTtlSecs_of_live live]
    rfl
  cases conversation with
  | nothing => cases read
  | clock time => simp [posts, isEtcdPost]
  | @grant time live reply | @txn time _ _ live granted reply
  | @revoke time _ _ _ live granted replay reply =>
    have same : now = time := by simpa using read
    subst same
    simp [posts, isEtcdPost, alive live, timed live]

/-- A call follows the store: it is fresh only after a transaction under a granted lease put
the key, and a replay exactly if the transaction answered without success, whatever becomes of
the revocation; it sends nothing about a stale request and three posts at most, and asks for a
lease of exactly the time that is left. -/
theorem insertIfAbsent_follows_store (key : String) (retainUntil nowUnix : Int)
    (exchanges : List RemoteExchange) :
    ((insertIfAbsent key retainUntil nowUnix).Runs exchanges (.ok .fresh) →
      ∃ leaseId, Leased leaseId exchanges ∧ PutUnder key leaseId exchanges) ∧
    (∀ result, (insertIfAbsent key retainUntil nowUnix).Runs exchanges result →
      (result = .ok .replay ↔ TxnUnsuccessful exchanges)) ∧
    (∀ body reply other result,
      (insertIfAbsent key retainUntil nowUnix).Runs
        (exchanges ++ [⟨etcdPost "v3/lease/revoke" body, reply⟩]) result →
      (insertIfAbsent key retainUntil nowUnix).Runs
        (exchanges ++ [⟨etcdPost "v3/lease/revoke" body, other⟩]) result) ∧
    (∀ now, (insertIfAbsent key retainUntil nowUnix).Follows exchanges →
      ⟨storeClock, now⟩ ∈ exchanges →
      (retainUntil ≤ now → exchanges.countP (·.1.isEtcdPost) = 0) ∧
      exchanges.countP (·.1.isEtcdPost) ≤ 3 ∧
      ∀ post ∈ posts "v3/lease/grant" exchanges,
        post.1.get "TTL" = some (.number (numberOfInteger (saturatingSub retainUntil now)))) := by
  refine ⟨?_, ?_, ?_, ?_⟩
  · intro runs
    exact (outcome_of_runs runs).putUnder
  · intro result runs
    exact (outcome_of_runs runs).eq_replay_iff
  · intro body reply other result runs
    exact ((outcome_of_runs runs).revoke_irrelevant other).runs nowUnix
  · intro now follows read
    exact (conversation_of_follows follows).sends read

end EtcdAtomicReplayStore

end

end Mcps.Proxy
