import Mcps.Proxy.EtcdStore
import Mcps.Proxy.RedisSafety

/-!
# The etcd server

Leases and the keys put under them.  A lease lasts at least as long as it was asked for
and its number is never given out again; when it ends or is revoked its keys go.  A call
only ever revokes the lease it was granted itself, after a transaction that put nothing
under it, so no revocation takes away a key that a call has put.
-/

namespace Mcps.Proxy

open RemoteRequest List Assoc

/-! ## The server -/

/-- What a POST to the gateway asks for. -/
inductive EtcdCommand where
  | grant (ttlSecs : Int)
  | txn (compareKey putKey lease : String)
  | revoke (lease : String)
  | other
  deriving DecidableEq

/-- The first element of an array. -/
def first? : Value → Option Value
  | .array (element :: _) => some element
  | _ => none

def grantCommand? (body : Value) : Option EtcdCommand := do
  let .number ttl ← body.get "TTL" | none
  return .grant (← ttl.asI64)

def txnCommand? (body : Value) : Option EtcdCommand := do
  let compares ← body.get "compare"
  let compared ← first? compares
  let compareKey ← compared.get "key"
  let successes ← body.get "success"
  let success ← first? successes
  let put ← success.get "request_put"
  let putKey ← put.get "key"
  let lease ← put.get "lease"
  return .txn (← compareKey.asStr) (← putKey.asStr) (← lease.asStr)

def revokeCommand? (body : Value) : Option EtcdCommand := do
  let lease ← body.get "ID"
  return .revoke (← lease.asStr)

def etcdCommand (path : String) (body : Value) : EtcdCommand :=
  if path = "v3/lease/grant" then (grantCommand? body).getD .other
  else if path = "v3/kv/txn" then (txnCommand? body).getD .other
  else if path = "v3/lease/revoke" then (revokeCommand? body).getD .other
  else .other

/-- The server's clock, the end of every lease it granted, the leases it revoked, and the
lease each key was put under. -/
structure EtcdState where
  now : Int
  leases : List (String × Int)
  revoked : List String
  keys : List (String × String)

namespace EtcdState

/-- The key is there: the lease it was put under has neither ended nor been revoked. -/
def Live (state : EtcdState) (key : String) (time : Int) : Prop :=
  ∃ lease ∈ Assoc.find? key state.keys, lease ∉ state.revoked ∧
    ∃ expiry ∈ Assoc.find? lease state.leases, time < expiry

def advance (state : EtcdState) (time : Int) : EtcdState := { state with now := time }

def grant (state : EtcdState) (lease : String) (expiry time : Int) : EtcdState :=
  { state with now := time, leases := (lease, expiry) :: state.leases }

def put (state : EtcdState) (key lease : String) (time : Int) : EtcdState :=
  { state with now := time, keys := (key, lease) :: state.keys }

def revoke (state : EtcdState) (lease : String) (time : Int) : EtcdState :=
  { state with now := time, revoked := lease :: state.revoked }

/-- The key is there under the lease up to the deadline, which may be over. -/
def Holds (state : EtcdState) (key lease : String) (deadline : Int) : Prop :=
  (Assoc.find? key state.keys = some lease ∧ lease ∉ state.revoked ∧
    ∃ expiry, Assoc.find? lease state.leases = some expiry ∧ deadline ≤ expiry) ∨
  deadline ≤ state.now

theorem Holds.le_of_not_live {state : EtcdState} {key lease : String}
    {deadline time : Int} (holds : state.Holds key lease deadline)
    (forward : state.now ≤ time) (absent : ¬ state.Live key time) : deadline ≤ time := by
  rcases holds with ⟨found, unrevoked, expiry, granted, long⟩ | past
  · by_contra early
    exact absent ⟨lease, found, unrevoked, expiry, granted, (not_le.mp early).trans_le long⟩
  · exact past.trans forward

end EtcdState

/-- The command an exchange carries to the server. -/
def said : RemoteExchange → Option EtcdCommand
  | ⟨etcdPost path body, _⟩ => some (etcdCommand path body)
  | _ => none

/-- The server's reply, if it arrived. -/
def answered : RemoteExchange → Option Value
  | ⟨etcdPost _ _, .ok resp⟩ => some resp
  | _ => none

/-- What the server does with a command and how it replies.  A key whose lease has ended
may be found until the server has collected it; a command whose reply does not arrive may
have been carried out. -/
def EtcdServes [Crates] (state next : EtcdState) (time : Int) :
    EtcdCommand → Option Value → Prop
  | .grant ttlSecs, reply =>
    next = state.advance time ∧ (∀ resp ∈ reply, ∀ id, parseLeaseId resp ≠ .ok id) ∨
      ∃ id expiry, (∀ resp ∈ reply, parseLeaseId resp = .ok id) ∧
        Assoc.find? (toString id) state.leases = none ∧ time + 1000 * ttlSecs ≤ expiry ∧
        next = state.grant (toString id) expiry time
  | .txn compareKey putKey lease, reply =>
    next = state.advance time ∧
        (∀ resp ∈ reply, decisionFromTxn resp = .replay ∧
          ∃ lease ∈ Assoc.find? compareKey state.keys, lease ∉ state.revoked) ∨
      (∀ resp ∈ reply, decisionFromTxn resp = .fresh) ∧
        ¬ state.Live compareKey time ∧ lease ∉ state.revoked ∧
        (∃ expiry, Assoc.find? lease state.leases = some expiry) ∧
        next = state.put putKey lease time
  | .revoke lease, _ => next = state.advance time ∨ next = state.revoke lease time
  | .other, _ => next = state.advance time

def EtcdStep [Crates] {ι : Type} (state : EtcdState) (occurrence : Occurrence ι Reply)
    (next : EtcdState) : Prop :=
  state.now ≤ occurrence.time ∧ OnClock occurrence.time ∧
    match said occurrence.exchange with
    | some command => EtcdServes state next occurrence.time command (answered occurrence.exchange)
    | none => next = state.advance occurrence.time

/-! ## What a log shows -/

/-- The exchange asks for the revocation of the lease. -/
def Revokes (exchange : RemoteExchange) (lease : String) : Prop :=
  said exchange = some (.revoke lease)

/-- A transaction of the exchange compares the key it puts. -/
def ComparesPut (exchange : RemoteExchange) : Prop :=
  ∀ compareKey putKey lease, said exchange = some (.txn compareKey putKey lease) →
    compareKey = putKey

/-- The exchange puts the key, if it is not there, under the lease. -/
def PutsUnder (exchange : RemoteExchange) (key lease : String) : Prop :=
  said exchange = some (.txn key key lease) ∧
    ∃ resp ∈ answered exchange, decisionFromTxn resp = .fresh

section

variable [Crates]

/-- The exchange grants the lease. -/
def Grants (exchange : RemoteExchange) (lease : String) (ttlSecs : Int) : Prop :=
  said exchange = some (.grant ttlSecs) ∧
    ∃ resp ∈ answered exchange, ∃ id, parseLeaseId resp = .ok id ∧ lease = toString id

variable {ι : Type} {state next : EtcdState} {occurrence : Occurrence ι Reply}
  {key lease : String} {ttlSecs deadline expiry : Int}

/-- What a step does: it only lets time pass, or it grants a new lease, puts a key that is
not there, or revokes a lease. -/
theorem EtcdStep.cases (step : EtcdStep state occurrence next)
    (compares : ComparesPut occurrence.exchange) :
    next = state.advance occurrence.time ∨
      (∃ lease expiry, Assoc.find? lease state.leases = none ∧
        next = state.grant lease expiry occurrence.time) ∨
      (∃ key lease, ¬ state.Live key occurrence.time ∧
        next = state.put key lease occurrence.time) ∨
      ∃ lease, Revokes occurrence.exchange lease ∧ next = state.revoke lease occurrence.time := by
  obtain ⟨_, _, step⟩ := step
  cases command : said occurrence.exchange with
  | none =>
    rw [command] at step
    exact .inl step
  | some sent =>
    simp only [command] at step
    cases sent with
    | grant ttlSecs =>
      rcases step with ⟨same, _⟩ | ⟨_, expiry, _, unused, _, granted⟩
      · exact .inl same
      · exact .inr (.inl ⟨_, expiry, unused, granted⟩)
    | txn compareKey putKey lease =>
      cases compares compareKey putKey lease command
      rcases step with ⟨same, _⟩ | ⟨_, absent, _, _, put⟩
      · exact .inl same
      · exact .inr (.inr (.inl ⟨_, _, absent, put⟩))
    | revoke lease =>
      rcases step with same | revoked
      · exact .inl same
      · exact .inr (.inr (.inr ⟨lease, command, revoked⟩))
    | other => exact .inl step

theorem EtcdStep.of_grants (step : EtcdStep state occurrence next)
    (grants : Grants occurrence.exchange lease ttlSecs) :
    find? lease state.leases = none ∧ ∃ expiry,
      occurrence.time + 1000 * ttlSecs ≤ expiry ∧
        next = state.grant lease expiry occurrence.time := by
  obtain ⟨command, resp, arrived, id, parsed, rfl⟩ := grants
  obtain ⟨_, _, step⟩ := step
  simp only [command] at step
  rcases step with ⟨_, refused⟩ | ⟨_, expiry, named, unused, long, granted⟩
  · exact absurd parsed (refused resp arrived id)
  · cases (named resp arrived).symm.trans parsed
    exact ⟨unused, expiry, long, granted⟩

theorem EtcdStep.of_putsUnder (step : EtcdStep state occurrence next)
    (puts : PutsUnder occurrence.exchange key lease) :
    ¬ state.Live key occurrence.time ∧ lease ∉ state.revoked ∧
      (∃ expiry, find? lease state.leases = some expiry) ∧
        next = state.put key lease occurrence.time := by
  obtain ⟨command, resp, arrived, fresh⟩ := puts
  obtain ⟨_, _, step⟩ := step
  simp only [command] at step
  rcases step with ⟨_, replayed⟩ | ⟨_, absent, kept, granted, put⟩
  · cases fresh.symm.trans (replayed resp arrived).1
  · exact ⟨absent, kept, granted, put⟩

theorem EtcdState.Holds.step (holds : state.Holds key lease deadline)
    (step : EtcdStep state occurrence next) (compares : ComparesPut occurrence.exchange)
    (kept : ¬ Revokes occurrence.exchange lease) : next.Holds key lease deadline := by
  have forward := step.1
  rcases holds with ⟨found, unrevoked, expiry, granted, long⟩ | past
  · rcases step.cases compares with rfl | ⟨other, _, unused, rfl⟩ | ⟨other, _, absent, rfl⟩ |
      ⟨other, revokes, rfl⟩
    · exact .inl ⟨found, unrevoked, expiry, granted, long⟩
    · have different : other ≠ lease := by
        rintro rfl
        rw [granted] at unused
        cases unused
      exact .inl ⟨found, unrevoked, expiry, (find?_cons_ne different _ _).trans granted, long⟩
    · by_cases same : other = key
      · subst same
        right
        by_contra early
        exact absent ⟨lease, found, unrevoked, expiry, granted, (not_le.mp early).trans_le long⟩
      · exact .inl ⟨(find?_cons_ne same _ _).trans found, unrevoked, expiry, granted, long⟩
    · refine .inl ⟨found, ?_, expiry, granted, long⟩
      intro member
      rcases mem_cons.mp member with rfl | inRevoked
      · exact kept revokes
      · exact unrevoked inRevoked
  · right
    rcases step.cases compares with rfl | ⟨_, _, _, rfl⟩ | ⟨_, _, _, rfl⟩ | ⟨_, _, rfl⟩ <;>
      exact past.trans forward

theorem EtcdStep.leases_mono (step : EtcdStep state occurrence next)
    (compares : ComparesPut occurrence.exchange)
    (granted : find? lease state.leases = some expiry) :
    find? lease next.leases = some expiry := by
  rcases step.cases compares with rfl | ⟨other, _, unused, rfl⟩ | ⟨_, _, _, rfl⟩ | ⟨_, _, rfl⟩
  · exact granted
  · have different : other ≠ lease := by
      rintro rfl
      rw [granted] at unused
      cases unused
    exact (find?_cons_ne different _ _).trans granted
  · exact granted
  · exact granted

variable {log : List (Occurrence ι Reply)}

theorem onClock_of_mem_etcd (run : Admits EtcdStep state log) (member : occurrence ∈ log) :
    OnClock occurrence.time := by
  rcases Admits.forall_step (fun _ _ _ => trivial) trivial (fun _ _ => trivial) run
    occurrence member with ⟨_, _, _, step⟩
  exact step.2.1

theorem grants_unique (run : Admits EtcdStep state log)
    (compares : ∀ occurrence ∈ log, ComparesPut occurrence.exchange)
    {first second : Occurrence ι Reply} (inLog : first ∈ log) (secondInLog : second ∈ log)
    {otherTtl : Int} (grants : Grants first.exchange lease ttlSecs)
    (again : Grants second.exchange lease otherTtl) : first = second := by
  have pairwise : log.Pairwise fun first second => ∀ lease ttlSecs otherTtl,
      Grants first.exchange lease ttlSecs → ¬ Grants second.exchange lease otherTtl := by
    refine @Admits.pairwise _ _ EtcdStep state log (fun _ => True)
      (fun occurrence => ComparesPut occurrence.exchange)
      (fun occurrence state => ∀ lease ttlSecs, Grants occurrence.exchange lease ttlSecs →
        ∃ expiry, find? lease state.leases = some expiry)
      (fun _ occurrence => ComparesPut occurrence.exchange) _ ?_ ?_ ?_ ?_ trivial compares
      (fun _ _ => compares) run
    · exact fun _ _ _ => trivial
    · intro state occurrence next _ _ step lease ttlSecs grants
      obtain ⟨_, expiry, _, rfl⟩ := step.of_grants grants
      exact ⟨expiry, find?_cons_self _ _ _⟩
    · intro earlier state occurrence next known compares step lease ttlSecs grants
      obtain ⟨expiry, granted⟩ := known lease ttlSecs grants
      exact ⟨expiry, step.leases_mono compares granted⟩
    · intro earlier state occurrence next known _ step lease ttlSecs otherTtl grants again
      obtain ⟨expiry, granted⟩ := known lease ttlSecs grants
      rw [(step.of_grants again).1] at granted
      cases granted
  by_contra different
  rcases pairwise.related_or inLog secondInLog different with unrelated | unrelated
  · exact unrelated _ _ _ grants again
  · exact unrelated _ _ _ again grants

/-- A put of the key after one under the lease comes after the deadline. -/
def LeaseApart (lease : String) (deadline : Int) (earlier later : Occurrence ι Reply) : Prop :=
  ∀ key laterLease, PutsUnder earlier.exchange key lease →
    PutsUnder later.exchange key laterLease → deadline ≤ later.time

theorem pairwise_leaseApart_of_granted
    (granted : find? lease state.leases = some expiry) (long : deadline ≤ expiry)
    (compares : ∀ occurrence ∈ log, ComparesPut occurrence.exchange)
    (unrevoked : ∀ putting ∈ log, ∀ revoking ∈ log, ∀ key,
      PutsUnder putting.exchange key lease → ¬ Revokes revoking.exchange lease)
    (run : Admits EtcdStep state log) : log.Pairwise (LeaseApart lease deadline) := by
  refine @Admits.pairwise _ _ EtcdStep state log
    (fun state => find? lease state.leases = some expiry)
    (fun occurrence => ComparesPut occurrence.exchange)
    (fun occurrence state => ∀ key, PutsUnder occurrence.exchange key lease →
      state.Holds key lease deadline)
    (fun earlier later => ComparesPut later.exchange ∧
      ∀ key, PutsUnder earlier.exchange key lease → ¬ Revokes later.exchange lease)
    _ ?_ ?_ ?_ ?_ granted compares ?_ run
  · intro state occurrence next granted compares step
    exact step.leases_mono compares granted
  · intro state occurrence next granted _ step key puts
    obtain ⟨_, kept, _, rfl⟩ := step.of_putsUnder puts
    exact .inl ⟨find?_cons_self _ _ _, kept, expiry, granted, long⟩
  · intro earlier state occurrence next held guard step key puts
    exact (held key puts).step step guard.1 (guard.2 key puts)
  · intro earlier state occurrence next held _ step key laterLease puts again
    exact (held key puts).le_of_not_live step.1 (step.of_putsUnder again).1
  · intro earlier earlierIn later laterIn
    exact ⟨compares later laterIn, unrevoked earlier earlierIn later laterIn⟩

end

/-! ## What a call says to the server -/

theorem etcdCommand_leaseGrant (retainUntil now : Int) :
    etcdCommand "v3/lease/grant" (buildLeaseGrantBody (computeTtlSecs retainUntil now)) =
      .grant (computeTtlSecs retainUntil now) := by
  have positive : 1 ≤ computeTtlSecs retainUntil now := le_max_right _ _
  have bounded : computeTtlSecs retainUntil now ≤ i64Max := by
    unfold computeTtlSecs saturatingSub clampI64 i64Min i64Max
    omega
  generalize computeTtlSecs retainUntil now = ttlSecs at positive bounded
  unfold i64Max at bounded
  have small : ttlSecs.toNat < 2 ^ 63 := by omega
  have asI64 : (numberOfInteger ttlSecs).asI64 = some ttlSecs := by
    rw [numberOfInteger, dif_pos (by omega), Number.asI64, if_pos small]
    rw [Int.toNat_of_nonneg (by omega)]
  simp [etcdCommand, grantCommand?, buildLeaseGrantBody, Assoc.find?, asI64]

theorem le_of_add_computeTtlSecs_le {retainUntil nowUnix start time : Int}
    (starts : OnClock start) (ends : OnClock time)
    (past : start + 1000 * computeTtlSecs retainUntil nowUnix ≤ time) :
    start + 1000 * (retainUntil - nowUnix) ≤ time := by
  unfold OnClock i64Min i64Max at starts ends
  simp only [computeTtlSecs, saturatingSub, clampI64, i64Max] at past
  omega

theorem etcdCommand_putTxn (keyB64 valueB64 : String) (leaseId : Int) :
    etcdCommand "v3/kv/txn" (buildTxnBody keyB64 valueB64 leaseId) =
      .txn keyB64 keyB64 (toString leaseId) := by
  simp [etcdCommand, txnCommand?, buildTxnBody, first?, Assoc.find?, Json.asStr]

theorem etcdCommand_leaseRevoke (leaseId : Int) :
    etcdCommand "v3/lease/revoke" (buildLeaseRevokeBody leaseId) = .revoke (toString leaseId) := by
  simp [etcdCommand, revokeCommand?, buildLeaseRevokeBody, Json.asStr]

open EtcdAtomicReplayStore

@[simp] theorem said_storeClock (now : Int) : said ⟨storeClock, now⟩ = none := rfl

@[simp] theorem said_leaseGrant (retainUntil now : Int) (reply : Except ReplayStoreError Value) :
    said ⟨leaseGrant retainUntil now, reply⟩ = some (.grant (computeTtlSecs retainUntil now)) :=
  congrArg some (etcdCommand_leaseGrant retainUntil now)

@[simp] theorem said_putTxn [StandardBase64] (key : String) (leaseId : Int)
    (reply : Except ReplayStoreError Value) :
    said ⟨putTxn key leaseId, reply⟩ = some (.txn (StandardBase64.encode (textBytes key))
      (StandardBase64.encode (textBytes key)) (toString leaseId)) :=
  congrArg some (etcdCommand_putTxn _ _ leaseId)

@[simp] theorem said_leaseRevoke (leaseId : Int) (reply : Except ReplayStoreError Value) :
    said ⟨leaseRevoke leaseId, reply⟩ = some (.revoke (toString leaseId)) :=
  congrArg some (etcdCommand_leaseRevoke leaseId)

theorem grants_leaseGrant [Crates] {retainUntil now leaseId : Int} {leaseResp : Value}
    (granted : parseLeaseId leaseResp = .ok leaseId) :
    Grants ⟨leaseGrant retainUntil now, .ok leaseResp⟩ (toString leaseId)
      (computeTtlSecs retainUntil now) :=
  ⟨said_leaseGrant retainUntil now _, leaseResp, rfl, leaseId, granted, rfl⟩

section

variable [Crates] [StandardBase64] {key : String} {retainUntil : Int}
  {exchanges : List RemoteExchange}

namespace EtcdAtomicReplayStore.Conversation

theorem comparesPut (conversation : Conversation key retainUntil exchanges) :
    ∀ exchange ∈ exchanges, ComparesPut exchange := by
  unfold ComparesPut
  cases conversation <;> simp

theorem grants_of_putsUnder (conversation : Conversation key retainUntil exchanges)
    {exchange : RemoteExchange} (member : exchange ∈ exchanges) {putKey lease : String}
    (puts : PutsUnder exchange putKey lease) :
    ∃ granting ∈ exchanges, ∃ ttlSecs, Grants granting lease ttlSecs := by
  obtain ⟨command, _⟩ := puts
  cases conversation with
  | nothing => cases member
  | clock now =>
    cases mem_singleton.mp member
    simp at command
  | grant live reply =>
    simp only [mem_cons, not_mem_nil, or_false] at member
    rcases member with rfl | rfl <;> simp at command
  | txn live granted reply =>
    simp only [mem_cons, not_mem_nil, or_false] at member
    rcases member with rfl | rfl | rfl <;> simp at command
    rw [← command.2]
    exact ⟨_, mem_cons_of_mem _ mem_cons_self, _, grants_leaseGrant granted⟩
  | revoke live granted replay reply =>
    simp only [mem_cons, not_mem_nil, or_false] at member
    rcases member with rfl | rfl | rfl | rfl <;> simp at command
    rw [← command.2]
    exact ⟨_, mem_cons_of_mem _ mem_cons_self, _, grants_leaseGrant granted⟩

theorem of_revokes (conversation : Conversation key retainUntil exchanges)
    {exchange : RemoteExchange} (member : exchange ∈ exchanges) {lease : String}
    (revokes : Revokes exchange lease) :
    (∃ granting ∈ exchanges, ∃ ttlSecs, Grants granting lease ttlSecs) ∧
      ∀ putting ∈ exchanges, ∀ putKey putLease, ¬ PutsUnder putting putKey putLease := by
  unfold Revokes at revokes
  cases conversation with
  | nothing => cases member
  | clock now =>
    cases mem_singleton.mp member
    simp at revokes
  | grant live reply =>
    simp only [mem_cons, not_mem_nil, or_false] at member
    rcases member with rfl | rfl <;> simp at revokes
  | txn live granted reply =>
    simp only [mem_cons, not_mem_nil, or_false] at member
    rcases member with rfl | rfl | rfl <;> simp at revokes
  | revoke live granted replay reply =>
    simp only [mem_cons, not_mem_nil, or_false] at member
    rcases member with rfl | rfl | rfl | rfl <;> simp at revokes
    rw [← revokes]
    refine ⟨⟨_, mem_cons_of_mem _ mem_cons_self, _, grants_leaseGrant granted⟩, ?_⟩
    simp [PutsUnder, answered, replay]

end EtcdAtomicReplayStore.Conversation

/-- Every process says to the server what one call says. -/
def SpeaksAsCall {ι : Type} [DecidableEq ι] (log : List (Occurrence ι Reply)) : Prop :=
  ∀ process, ∃ key retainUntil conversation, Conversation key retainUntil conversation ∧
    ∀ exchange, (said exchange).isSome →
      (exchange ∈ Occurrence.own process log ↔ exchange ∈ conversation)

variable {ι : Type} [DecidableEq ι] {log : List (Occurrence ι Reply)} {start : EtcdState}

namespace SpeaksAsCall

theorem comparesPut (speaks : SpeaksAsCall log) :
    ∀ occurrence ∈ log, ComparesPut occurrence.exchange := by
  intro occurrence member compareKey putKey lease command
  obtain ⟨_, _, _, conversation, same⟩ := speaks occurrence.process
  have inConversation := (same occurrence.exchange (by simp [command])).mp
    (Occurrence.mem_own.mpr ⟨occurrence.time, member⟩)
  exact conversation.comparesPut _ inConversation compareKey putKey lease command

theorem grants_of_putsUnder (speaks : SpeaksAsCall log) {occurrence : Occurrence ι Reply}
    (member : occurrence ∈ log) {putKey lease : String}
    (puts : PutsUnder occurrence.exchange putKey lease) :
    ∃ granting ∈ log, granting.process = occurrence.process ∧
      ∃ ttlSecs, Grants granting.exchange lease ttlSecs := by
  obtain ⟨_, _, _, conversation, same⟩ := speaks occurrence.process
  have inConversation := (same occurrence.exchange (by simp [puts.1])).mp
    (Occurrence.mem_own.mpr ⟨occurrence.time, member⟩)
  rcases conversation.grants_of_putsUnder inConversation puts with
    ⟨granting, granted, ttlSecs, grants⟩
  rcases Occurrence.mem_own.mp ((same granting (by simp [grants.1])).mpr granted) with
    ⟨_, inLog⟩
  exact ⟨_, inLog, rfl, ttlSecs, grants⟩

theorem not_revokes (speaks : SpeaksAsCall log) (run : Admits EtcdStep start log)
    {putting revoking : Occurrence ι Reply} (puttingIn : putting ∈ log)
    (revokingIn : revoking ∈ log) {putKey lease : String}
    (puts : PutsUnder putting.exchange putKey lease) : ¬ Revokes revoking.exchange lease := by
  intro revokes
  obtain ⟨_, grantingIn, own, _, grants⟩ := speaks.grants_of_putsUnder puttingIn puts
  obtain ⟨_, _, _, conversation, same⟩ := speaks revoking.process
  have inConversation := (same revoking.exchange (by rw [revokes]; rfl)).mp
    (Occurrence.mem_own.mpr ⟨revoking.time, revokingIn⟩)
  obtain ⟨⟨other, granted, _, again⟩, nothing⟩ := conversation.of_revokes inConversation revokes
  rcases Occurrence.mem_own.mp ((same other (by simp [again.1])).mpr granted) with
    ⟨_, otherIn⟩
  have one := grants_unique run speaks.comparesPut grantingIn otherIn grants again
  have process : putting.process = revoking.process := by
    rw [← own, one]
  apply nothing putting.exchange _ putKey lease puts
  apply (same putting.exchange (by simp [puts.1])).mp
  rw [← process]
  exact Occurrence.mem_own.mpr ⟨putting.time, puttingIn⟩

end SpeaksAsCall

theorem pairwise_not_grants (speaks : SpeaksAsCall log) (run : Admits EtcdStep start log) :
    log.Pairwise fun earlier later => ∀ key lease ttlSecs,
      PutsUnder earlier.exchange key lease → ¬ Grants later.exchange lease ttlSecs := by
  refine @Admits.pairwise _ _ EtcdStep start log (fun _ => True)
    (fun occurrence => ComparesPut occurrence.exchange)
    (fun occurrence state => ∀ key lease, PutsUnder occurrence.exchange key lease →
      ∃ expiry, find? lease state.leases = some expiry)
    (fun _ occurrence => ComparesPut occurrence.exchange) _ ?_ ?_ ?_ ?_ trivial speaks.comparesPut
    (fun _ _ => speaks.comparesPut) run
  · exact fun _ _ _ => trivial
  · intro state occurrence next _ _ step key lease puts
    obtain ⟨_, _, granted, rfl⟩ := step.of_putsUnder puts
    exact granted
  · intro earlier state occurrence next known compares step key lease puts
    obtain ⟨expiry, granted⟩ := known key lease puts
    exact ⟨expiry, step.leases_mono compares granted⟩
  · intro earlier state occurrence next known _ step key lease ttlSecs puts grants
    obtain ⟨expiry, granted⟩ := known key lease puts
    rw [(step.of_grants grants).1] at granted
    cases granted

theorem pairwise_leaseApart (speaks : SpeaksAsCall log) (run : Admits EtcdStep start log)
    {granting : Occurrence ι Reply} (member : granting ∈ log) {lease : String} {ttlSecs : Int}
    (grants : Grants granting.exchange lease ttlSecs) :
    log.Pairwise (LeaseApart lease (granting.time + 1000 * ttlSecs)) := by
  have notBefore := pairwise_not_grants speaks run
  have compares := speaks.comparesPut
  have unrevoked : ∀ putting ∈ log, ∀ revoking ∈ log, ∀ key,
      PutsUnder putting.exchange key lease → ¬ Revokes revoking.exchange lease :=
    fun putting puttingIn revoking revokingIn key => speaks.not_revokes run puttingIn revokingIn
  obtain ⟨before, after, rfl⟩ := append_of_mem member
  have nothingBefore : ∀ earlier ∈ before, ∀ key, ¬ PutsUnder earlier.exchange key lease :=
    fun earlier inBefore key puts => (pairwise_append.mp notBefore).2.2 earlier inBefore
      granting mem_cons_self key lease ttlSecs puts grants
  have inLog : ∀ {occurrence}, occurrence ∈ after → occurrence ∈ before ++ granting :: after :=
    fun inAfter => mem_append_right _ (mem_cons_of_mem _ inAfter)
  rcases @Admits.of_append _ _ EtcdStep start before (fun _ => True) (fun _ => True) _
    (fun _ _ _ => trivial) trivial (fun _ _ => trivial) run with ⟨middle, _, next, step, run⟩
  obtain ⟨_, _, long, rfl⟩ := step.of_grants grants
  apply pairwise_append.mpr
  refine ⟨?_, pairwise_cons.mpr ⟨?_, ?_⟩, ?_⟩
  · apply pairwise_of_forall_mem_list
    intro earlier inBefore later _ key _ puts
    exact absurd puts (nothingBefore earlier inBefore key)
  · intro later _ key _ puts
    cases grants.1.symm.trans puts.1
  · apply pairwise_leaseApart_of_granted (find?_cons_self _ _ _) long _ _ run
    · exact fun occurrence inAfter => compares occurrence (inLog inAfter)
    · exact fun putting puttingIn revoking revokingIn =>
        unrevoked putting (inLog puttingIn) revoking (inLog revokingIn)
  · intro earlier inBefore later _ key _ puts
    exact absurd puts (nothingBefore earlier inBefore key)

end

end Mcps.Proxy
