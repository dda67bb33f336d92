import Mcps.Lib.Expiring
import Mcps.Lib.Transition
import Mcps.Proxy.SharedReplay

/-!
# The Redis store

Put-if-absent by `SET key 1 NX PX ttl`, where the time to live is what is left of the
retention on the store's own clock.  A broken connection is replaced once and the command
sent again; with a quorum configured a new key counts only if enough replicas
acknowledge it.
-/

namespace Mcps.Proxy

open RemoteRequest List

/-- `PX` in milliseconds from the retention and the current time. -/
def computeTtlMs (expiresAtUnix nowUnix : Int) : Nat :=
  let ttlSecs := max (saturatingSub expiresAtUnix nowUnix) 0
  max (min (ttlSecs.toNat * 1000) u64Max) 1

def isNonpositiveTtl (expiresAtUnix nowUnix : Int) : Bool :=
  saturatingSub expiresAtUnix nowUnix ≤ 0

theorem isNonpositiveTtl_eq_false {expiresAtUnix nowUnix : Int}
    (positive : isNonpositiveTtl expiresAtUnix nowUnix = false) : nowUnix < expiresAtUnix := by
  have above : ¬ clampI64 (expiresAtUnix - nowUnix) ≤ 0 := of_decide_eq_false positive
  unfold clampI64 i64Min i64Max at above
  omega

structure WaitQuorum where
  quorum : Nat
  timeoutMs : Nat
  deriving DecidableEq, Repr

def waitQuorumSatisfied (ackedReplicas : Int) (quorum : Nat) : Bool := ackedReplicas ≥ quorum

/-- The outcome of one attempt on a connection: a value, a broken connection, or another
failure. -/
inductive OpAttempt (α : Type) where
  | done (value : α)
  | transient (error : ReplayStoreError)
  | fatal (error : ReplayStoreError)
  deriving DecidableEq, Repr

def classifyFreshInsertWait (acked : Int) (quorum timeoutMs : Nat) : OpAttempt ReplayDecision :=
  if waitQuorumSatisfied acked quorum then .done .fresh
  else .fatal (.unavailable ("redis WAIT got " ++ toString acked ++ " replica ack(s), need " ++
    toString quorum ++ " within " ++ toString timeoutMs ++
    "ms (fail closed; nonce not durably replicated; retry with a FRESH nonce — the " ++
    "same signed request may be rejected as replay until the TTL window elapses)"))

def isTransientConnectionError (error : RedisError) : Bool :=
  error.isIoError || error.isConnectionDropped || error.isConnectionRefusal ||
    error.isUnrecoverableError

/-- Run an operation; if the connection is broken, replace it and run the operation once
more. -/
def runWithReconnect {α : Type} (reconnect : Remote (Except ReplayStoreError Unit))
    (op : Remote (OpAttempt α)) : Remote (Except ReplayStoreError α) := do
  match ← op with
  | .done value => return .ok value
  | .fatal e => return .error e
  | .transient _ =>
    match ← reconnect with
    | .error e => return .error e
    | .ok () =>
      match ← op with
      | .done value => return .ok value
      | .transient e | .fatal e => return .error e

/-- One attempt: `SET NX PX`, and `WAIT` for a key that is new. -/
def setIfAbsent (waitQuorum : Option WaitQuorum) (key : String) (ttlMs : Nat) :
    Remote (OpAttempt ReplayDecision) := do
  match ← Program.request (redisSet key ttlMs) with
  | .ok (some _) =>
    match waitQuorum with
    | none => return .done .fresh
    | some ⟨quorum, timeoutMs⟩ =>
      match ← Program.request (redisWait quorum timeoutMs) with
      | .ok acked => return classifyFreshInsertWait acked quorum timeoutMs
      | .error e => return .fatal (.unavailable ("redis WAIT failed: " ++ e.display))
  | .ok none => return .done .replay
  | .error e =>
    let storeError := .unavailable ("redis SET NX PX failed: " ++ e.display)
    if isTransientConnectionError e then return .transient storeError
    else return .fatal storeError

namespace RedisAtomicReplayStore

def insertIfAbsent (waitQuorum : Option WaitQuorum) (key : String)
    (expiresAtUnix _nowUnix : Int) : Remote (Except ReplayStoreError ReplayDecision) := do
  let nowUnix ← Program.request storeClock
  if isNonpositiveTtl expiresAtUnix nowUnix then
    return .error (staleError expiresAtUnix nowUnix)
  else
    let ttlMs := computeTtlMs expiresAtUnix nowUnix
    match ← Program.request lockConnection with
    | .error e => return .error (.unavailable ("redis connection mutex poisoned: " ++ e))
    | .ok () =>
      runWithReconnect (Program.request redisConnect) (setIfAbsent waitQuorum key ttlMs)

end RedisAtomicReplayStore

/-! ## How often a call asks -/

section

variable {kind : RemoteRequest → Bool} {attempts connects : Nat}

theorem atMost_runWithReconnect {α : Type} {reconnect : Remote (Except ReplayStoreError Unit)}
    {op : Remote (OpAttempt α)} (tries : op.AtMost kind attempts)
    (replaces : reconnect.AtMost kind connects) :
    (runWithReconnect reconnect op).AtMost kind (attempts + (connects + attempts)) := by
  refine tries.bind ?_ le_rfl
  intro attempt
  cases attempt with
  | done _ | fatal _ => exact Program.atMost_pure _
  | transient e =>
    refine replaces.bind ?_ le_rfl
    intro connected
    cases connected with
    | error e => exact Program.atMost_pure _
    | ok connection =>
      refine tries.bind ?_ (Nat.add_zero _).le
      intro attempt
      cases attempt <;> exact Program.atMost_pure _

theorem atMost_setIfAbsent (waitQuorum : Option WaitQuorum) {key : String} {ttlMs : Nat}
    (sets : kind (redisSet key ttlMs) = true → 1 ≤ attempts)
    (waits : ∀ quorum timeoutMs, kind (redisWait quorum timeoutMs) = false) :
    (setIfAbsent waitQuorum key ttlMs).AtMost kind attempts := by
  refine (Program.atMost_request sets).bind ?_ (Nat.add_zero _).le
  intro reply
  cases reply with
  | error e =>
    simp only
    split <;> exact Program.atMost_pure _
  | ok set =>
    cases set with
    | none => exact Program.atMost_pure _
    | some text =>
      cases waitQuorum with
      | none => exact Program.atMost_pure _
      | some wait =>
        refine (Program.atMost_request ?_).bind ?_ (Nat.add_zero 0).le
        · simp [waits]
        · intro acked
          cases acked <;> exact Program.atMost_pure _

end

/-! ## What a fresh answer rests on -/

variable {exchanges : List RemoteExchange}

theorem runs_runWithReconnect_ok {α : Type} {reconnect : Remote (Except ReplayStoreError Unit)}
    {op : Remote (OpAttempt α)} {value : α}
    (runs : (runWithReconnect reconnect op).Runs exchanges (.ok value)) :
    ∃ part, part ⊆ exchanges ∧ op.Runs part (.done value) := by
  obtain ⟨attempt, first, rest, rfl, tried, runs⟩ := Program.runs_bind.mp runs
  cases attempt with
  | done made =>
    cases runs.2
    exact ⟨first, subset_append_left _ _, tried⟩
  | fatal e => cases runs.2
  | transient e =>
    obtain ⟨connected, _, rest, rfl, _, runs⟩ := Program.runs_bind.mp runs
    cases connected with
    | error e => cases runs.2
    | ok connection =>
      obtain ⟨attempt, third, rest, rfl, retried, runs⟩ := Program.runs_bind.mp runs
      cases attempt with
      | done made =>
        cases runs.2
        refine ⟨third, ?_, retried⟩
        intro exchange member
        simp [member]
      | transient e | fatal e => cases runs.2

/-- The exchanges show that the key was set, and a quorum's acknowledgement. -/
structure Inserted (waitQuorum : Option WaitQuorum) (key : String) (ttlMs : Nat)
    (exchanges : List RemoteExchange) : Prop where
  set : ∃ text, ⟨redisSet key ttlMs, .ok (some text)⟩ ∈ exchanges
  acknowledged : ∀ wait ∈ waitQuorum, ∃ acked : Int, (wait.quorum : Int) ≤ acked ∧
    ⟨redisWait wait.quorum wait.timeoutMs, .ok acked⟩ ∈ exchanges

variable {waitQuorum : Option WaitQuorum}

theorem Inserted.mono {key : String} {ttlMs : Nat} {part : List RemoteExchange}
    (inserted : Inserted waitQuorum key ttlMs part) (within : part ⊆ exchanges) :
    Inserted waitQuorum key ttlMs exchanges where
  set := inserted.set.imp fun _ member => within member
  acknowledged wait configured :=
    (inserted.acknowledged wait configured).imp fun _ acked => ⟨acked.1, within acked.2⟩

theorem classifyFreshInsertWait_eq_fresh {acked : Int} {quorum timeoutMs : Nat}
    (fresh : classifyFreshInsertWait acked quorum timeoutMs = .done .fresh) :
    (quorum : Int) ≤ acked := by
  unfold classifyFreshInsertWait at fresh
  split at fresh
  next satisfied => exact of_decide_eq_true satisfied
  next => cases fresh

theorem runs_setIfAbsent_fresh {key : String} {ttlMs : Nat}
    (runs : (setIfAbsent waitQuorum key ttlMs).Runs exchanges (.done .fresh)) :
    Inserted waitQuorum key ttlMs exchanges := by
  rw [setIfAbsent.eq_def, Program.runs_request_bind] at runs
  obtain ⟨reply, rest, rfl, runs⟩ := runs
  cases reply with
  | error e =>
    simp only at runs
    split at runs <;> cases runs.2
  | ok set =>
    cases set with
    | none => cases runs.2
    | some text =>
      cases waitQuorum with
      | none => exact ⟨⟨text, mem_cons_self⟩, nofun⟩
      | some wait =>
        obtain ⟨acked, rest, rfl, runs⟩ := runs
        cases acked with
        | error e => cases runs.2
        | ok acked =>
          refine ⟨⟨text, mem_cons_self⟩, ?_⟩
          intro wait configured
          cases configured
          exact ⟨acked, classifyFreshInsertWait_eq_fresh runs.2,
            mem_cons_of_mem _ mem_cons_self⟩

namespace RedisAtomicReplayStore

theorem runs_insertIfAbsent_fresh {waitQuorum : Option WaitQuorum} {key : String}
    {retainUntil nowUnix : Int} {exchanges : List RemoteExchange}
    (runs : (insertIfAbsent waitQuorum key retainUntil nowUnix).Runs exchanges (.ok .fresh)) :
    ∃ now rest, exchanges = ⟨storeClock, now⟩ :: rest ∧ isNonpositiveTtl retainUntil now = false ∧
      Inserted waitQuorum key (computeTtlMs retainUntil now) rest := by
  rw [insertIfAbsent, Program.runs_request_bind] at runs
  obtain ⟨now, rest, rfl, runs⟩ := runs
  refine ⟨now, rest, rfl, ?_⟩
  split at runs
  next => cases runs.2
  next positive =>
    refine ⟨Bool.eq_false_iff.mpr positive, ?_⟩
    obtain ⟨locked, rest, rfl, runs⟩ := runs
    cases locked with
    | error e => cases runs.2
    | ok locked =>
      obtain ⟨part, within, tried⟩ := runs_runWithReconnect_ok runs
      exact (runs_setIfAbsent_fresh tried).mono (subset_cons_of_subset _ within)

/-- With a positive rest of the retention and the connection locked the call goes to the
server. -/
theorem runs_insertIfAbsent_of_positive {waitQuorum : Option WaitQuorum} {key : String}
    {retainUntil nowUnix now : Int} {rest : List RemoteExchange}
    {result : Except ReplayStoreError ReplayDecision}
    (positive : isNonpositiveTtl retainUntil now = false)
    (runs : (runWithReconnect (Program.request redisConnect)
      (setIfAbsent waitQuorum key (computeTtlMs retainUntil now))).Runs rest result) :
    (insertIfAbsent waitQuorum key retainUntil nowUnix).Runs
      (⟨storeClock, now⟩ :: ⟨lockConnection, .ok ()⟩ :: rest) result := by
  rw [insertIfAbsent, Program.runs_request_bind]
  refine ⟨now, _, rfl, ?_⟩
  rw [if_neg (by simp [positive])]
  exact ⟨.ok (), rest, rfl, runs⟩

theorem atMost_insertIfAbsent {kind : RemoteRequest → Bool} {bound : Nat}
    {waitQuorum : Option WaitQuorum} {key : String} {retainUntil nowUnix : Int}
    (clock : kind storeClock = false) (lock : kind lockConnection = false)
    (rest : ∀ ttlMs, (runWithReconnect (Program.request redisConnect)
      (setIfAbsent waitQuorum key ttlMs)).AtMost kind bound) :
    (insertIfAbsent waitQuorum key retainUntil nowUnix).AtMost kind bound := by
  refine (Program.atMost_request ?_).bind ?_ (Nat.zero_add bound).le
  · simp [clock]
  · intro now
    split
    next => exact Program.atMost_pure _
    next =>
      refine (Program.atMost_request ?_).bind ?_ (Nat.zero_add bound).le
      · simp [lock]
      · intro locked
        cases locked with
        | error e => exact Program.atMost_pure _
        | ok _ => exact rest _

variable (waitQuorum : Option WaitQuorum)

theorem atMost_redisSet (key : String) (retainUntil nowUnix : Int) :
    (insertIfAbsent waitQuorum key retainUntil nowUnix).AtMost isRedisSet 2 := by
  apply atMost_insertIfAbsent rfl rfl
  intro ttlMs
  apply @atMost_runWithReconnect isRedisSet 1 0
  · exact atMost_setIfAbsent waitQuorum (fun _ => le_rfl) fun _ _ => rfl
  · exact Program.atMost_request nofun

theorem atMost_redisConnect (key : String) (retainUntil nowUnix : Int) :
    (insertIfAbsent waitQuorum key retainUntil nowUnix).AtMost isRedisConnect 1 := by
  apply atMost_insertIfAbsent rfl rfl
  intro ttlMs
  apply @atMost_runWithReconnect isRedisConnect 0 1
  · exact atMost_setIfAbsent waitQuorum nofun fun _ _ => rfl
  · exact Program.atMost_request fun _ => le_rfl

end RedisAtomicReplayStore

end Mcps.Proxy
