import Mcps.Core.Reference
import Mcps.Proxy.EtcdSafety

/-!
# Replays across proxies with different clocks

Several proxies share one remote store.  Each delivery of a request checks its freshness
on the proxy's clock and then asks the store, which lets the key live for what is left of
the retention on that proxy's clock.  The key is gone too early for a second proxy whose
clock is behind the first one's, even if both are within the tolerated skew.
-/

namespace Mcps.Proxy

open RemoteRequest List

/-- The service behind a store. -/
inductive Service where
  | redis
  | etcd
  deriving DecidableEq, Repr

/-- A store as a proxy is configured with it. -/
inductive RemoteStore where
  | redis (waitQuorum : Option WaitQuorum)
  | etcd
  deriving DecidableEq, Repr

def RemoteStore.service : RemoteStore → Service
  | redis _ => .redis
  | etcd => .etcd

section

variable [Crates] [StandardBase64]

def RemoteStore.adapter : RemoteStore → AtomicReplayStore Remote
  | redis waitQuorum => ⟨RedisAtomicReplayStore.insertIfAbsent waitQuorum⟩
  | etcd => ⟨EtcdAtomicReplayStore.insertIfAbsent⟩

/-- One delivery of a request: the freshness check on the proxy's clock, then the shared
replay cache. -/
def deliver (store : RemoteStore) (maxClockSkewSecs : Int) (claims : RequestClaims) :
    Remote (Except McpsError ReplayDecision) := do
  let now ← Program.request now
  match checkFreshness claims.issuedAt claims.expiresAt now maxClockSkewSecs with
  | .error e => return .error e
  | .ok () =>
    match parseRfc3339Utc claims.expiresAt with
    | .error e => return .error e
    | .ok expiresAtUnix =>
      let cache : SharedReplayCache Remote := ⟨store.adapter, maxClockSkewSecs⟩
      let decision ← cache.checkAndInsert claims.verifiedSigner claims.audience claims.nonce
        expiresAtUnix
      return decision.mapError ReplayCacheError.toMcpsError

variable {store : RemoteStore} {skew : Int} {claims : RequestClaims}
  {exchanges : List RemoteExchange}

theorem follows_deliver (follows : (deliver store skew claims).Follows exchanges) :
    exchanges = [] ∨ ∃ reading rest, exchanges = ⟨now, reading⟩ :: rest ∧
      (rest = [] ∨ ∃ key retainUntil, (store.adapter.insertIfAbsent key retainUntil 0).Follows rest) := by
  rw [deliver, Program.follows_request_bind] at follows
  rcases follows with rfl | ⟨reading, rest, rfl, follows⟩
  · exact .inl rfl
  refine .inr ⟨reading, rest, rfl, ?_⟩
  split at follows
  next => exact .inl follows
  next =>
    split at follows
    next => exact .inl follows
    next =>
      have asked := Program.follows_bind_pure.mp follows
      exact .inr ⟨_, _, Program.follows_bind_pure.mp asked⟩

/-- A fresh request gets the store's decision. -/
theorem runs_deliver_of_fresh {reading expires : Int} {rest : List RemoteExchange}
    {decision : ReplayDecision}
    (fresh : checkFreshness claims.issuedAt claims.expiresAt reading skew = .ok ())
    (parsed : parseRfc3339Utc claims.expiresAt = .ok expires)
    (runs : (store.adapter.insertIfAbsent
      (SharedReplayCache.compositeKey claims.verifiedSigner claims.audience claims.nonce)
      (saturatingAdd expires skew) 0).Runs rest (.ok decision)) :
    (deliver store skew claims).Runs (⟨now, reading⟩ :: rest) (.ok decision) := by
  rw [deliver, Program.runs_request_bind]
  refine ⟨reading, rest, rfl, ?_⟩
  simp only [fresh, parsed]
  apply Program.runs_bind_pure.mpr
  exact ⟨.ok decision, Program.runs_bind_pure.mpr ⟨.ok decision, runs, rfl⟩, rfl⟩

theorem runs_deliver_fresh (runs : (deliver store skew claims).Runs exchanges (.ok .fresh)) :
    ∃ reading rest expires, exchanges = ⟨now, reading⟩ :: rest ∧
      parseRfc3339Utc claims.expiresAt = .ok expires ∧
      (store.adapter.insertIfAbsent
        (SharedReplayCache.compositeKey claims.verifiedSigner claims.audience claims.nonce)
        (saturatingAdd expires skew) 0).Runs rest (.ok .fresh) := by
  rw [deliver, Program.runs_request_bind] at runs
  obtain ⟨reading, rest, rfl, runs⟩ := runs
  split at runs
  next => cases runs.2
  next =>
    split at runs
    next => cases runs.2
    next expires parsed =>
      refine ⟨reading, rest, expires, rfl, parsed, ?_⟩
      obtain ⟨_, checked, decided⟩ := Program.runs_bind_pure.mp runs
      obtain ⟨_, asked, rfl⟩ := Program.runs_bind_pure.mp checked
      rw [Except.mapError_eq_ok, Except.mapError_eq_ok] at decided
      rwa [decided] at asked

/-! ## Runs -/

/-- The log is what the service can do. -/
def Service.Serves {ι : Type} (service : Service) (log : List (Occurrence ι Reply)) : Prop :=
  match service with
  | .redis => ∃ start, Admits RedisStep start log
  | .etcd => ∃ start, Admits EtcdStep start log

variable {ι : Type} [DecidableEq ι]

/-- Deliveries by proxies that share one service and tolerate one skew. -/
structure SharedRun (service : Service) (stores : ι → RemoteStore) (skew : Int)
    (requests : ι → RequestClaims) (log : List (Occurrence ι Reply)) : Prop where
  shares : ∀ delivery, (stores delivery).service = service
  follows : ∀ delivery,
    (deliver (stores delivery) skew (requests delivery)).Follows (Occurrence.own delivery log)
  served : service.Serves log

/-- The delivery has ended in acceptance. -/
def Accepted (stores : ι → RemoteStore) (skew : Int) (requests : ι → RequestClaims)
    (log : List (Occurrence ι Reply)) (delivery : ι) : Prop :=
  (deliver (stores delivery) skew (requests delivery)).Runs (Occurrence.own delivery log)
    (.ok .fresh)

end

/-! ## Clocks -/

section

variable {ι : Type} [DecidableEq ι]

def clockReading : RemoteExchange → Option Int
  | ⟨storeClock, reading⟩ => some reading
  | _ => none

/-- What a delivery read on its store's clock. -/
def storeReading (delivery : ι) (log : List (Occurrence ι Reply)) : Option Int :=
  (Occurrence.own delivery log).findSome? clockReading

/-- The exchange from which on a key lives for its time. -/
def startsTtl : RemoteExchange → Bool
  | ⟨redisSet _ _, _⟩ => true
  | ⟨etcdPost path _, _⟩ => path = "v3/lease/grant"
  | _ => false

/-- The exchange that decides whether a key is there. -/
def decides : RemoteExchange → Bool
  | ⟨redisSet _ _, _⟩ => true
  | ⟨etcdPost path _, _⟩ => path = "v3/kv/txn"
  | _ => false

/-- Between the start of one delivery's key and the decision about another of the same
request, the service's clock advances by less than a second more than the second
delivery's reading is ahead of the first one's. -/
def InStep (requests : ι → RequestClaims) (log : List (Occurrence ι Reply)) : Prop :=
  ∀ starting ∈ log, ∀ deciding ∈ log, starting.process ≠ deciding.process →
    requests starting.process = requests deciding.process →
    startsTtl starting.exchange = true → decides deciding.exchange = true →
    starting.time ≤ deciding.time →
    ∀ reading ∈ storeReading starting.process log,
      ∀ laterReading ∈ storeReading deciding.process log,
        deciding.time - starting.time < 1000 * (laterReading + 1 - reading)

/-- The second delivery is decided after the first one's key has ended. -/
def Outlived (retainUntil : Int) (first second : ι) (log : List (Occurrence ι Reply)) : Prop :=
  ∃ starting ∈ log, ∃ deciding ∈ log, starting.process = first ∧ deciding.process = second ∧
    startsTtl starting.exchange = true ∧ decides deciding.exchange = true ∧
    ∃ reading ∈ storeReading first log, ∃ laterReading ∈ storeReading second log,
      reading < retainUntil ∧ laterReading < retainUntil ∧
        starting.time + 1000 * (retainUntil - reading) ≤ deciding.time

theorem InStep.not_outlived {requests : ι → RequestClaims} {log : List (Occurrence ι Reply)}
    {retainUntil : Int} {first second : ι} (inStep : InStep requests log)
    (different : first ≠ second) (same : requests first = requests second) :
    ¬ Outlived retainUntil first second log := by
  rintro ⟨starting, startingIn, deciding, decidingIn, rfl, rfl, starts, decided, reading, read,
    laterReading, laterRead, live, laterLive, past⟩
  have close := inStep starting startingIn deciding decidingIn different same starts decided
    (by omega) reading read laterReading laterRead
  omega

end

section

variable [Crates] [StandardBase64] {ι : Type} [DecidableEq ι] {stores : ι → RemoteStore}
  {skew : Int} {requests : ι → RequestClaims} {log : List (Occurrence ι Reply)} {delivery : ι}

/-- The key of a request and the end of its retention. -/
def requestKey (claims : RequestClaims) : String :=
  SharedReplayCache.compositeKey claims.verifiedSigner claims.audience claims.nonce

/-- A delivery accepted through Redis has put the request's key for the rest of the
retention. -/
theorem puts_of_accepted {waitQuorum : Option WaitQuorum}
    (store : stores delivery = .redis waitQuorum)
    (accepted : Accepted stores skew requests log delivery) :
    ∃ expires reading, parseRfc3339Utc (requests delivery).expiresAt = .ok expires ∧
      reading ∈ storeReading delivery log ∧ reading < saturatingAdd expires skew ∧
      ∃ putting ∈ log, putting.process = delivery ∧ Puts putting (requestKey (requests delivery))
        (computeTtlMs (saturatingAdd expires skew) reading) := by
  obtain ⟨verified, _, expires, exchanged, parsed, runs⟩ := runs_deliver_fresh accepted
  rw [store] at runs
  rcases @RedisAtomicReplayStore.runs_insertIfAbsent_fresh _ _ _ 0 _ runs with
    ⟨reading, _, rfl, positive, inserted⟩
  obtain ⟨text, member⟩ := inserted.set
  have inOwn := mem_cons_of_mem ⟨now, verified⟩
    (mem_cons_of_mem ⟨storeClock, reading⟩ member)
  rw [← exchanged] at inOwn
  obtain ⟨_, inLog⟩ := Occurrence.mem_own.mp inOwn
  have read : storeReading delivery log = some reading := by
    rw [storeReading, exchanged]
    rfl
  exact ⟨expires, reading, parsed, read, isNonpositiveTtl_eq_false positive, _, inLog, rfl, text,
    rfl⟩

/-- A delivery accepted through etcd has put the request's key under a lease for the rest
of the retention. -/
theorem putsUnder_of_accepted (store : stores delivery = .etcd)
    (accepted : Accepted stores skew requests log delivery) :
    ∃ expires reading, parseRfc3339Utc (requests delivery).expiresAt = .ok expires ∧
      reading ∈ storeReading delivery log ∧ reading < saturatingAdd expires skew ∧
      ∃ granting ∈ log, ∃ putting ∈ log, granting.process = delivery ∧
        putting.process = delivery ∧ startsTtl granting.exchange = true ∧
        decides putting.exchange = true ∧
        ∃ lease, Grants granting.exchange lease
            (computeTtlSecs (saturatingAdd expires skew) reading) ∧
          PutsUnder putting.exchange
            (StandardBase64.encode (textBytes (requestKey (requests delivery)))) lease := by
  obtain ⟨_, _, expires, exchanged, parsed, runs⟩ := runs_deliver_fresh accepted
  rw [store] at runs
  rcases @EtcdAtomicReplayStore.runs_insertIfAbsent_fresh _ _ _ _ 0 _ runs with
    ⟨reading, _, leaseId, txnResp, live, granted, fresh, rfl⟩
  have member : ∀ {exchange}, exchange ∈ Occurrence.own delivery log →
      ∃ time, ⟨delivery, time, exchange⟩ ∈ log := Occurrence.mem_own.mp
  rw [exchanged] at member
  rcases member (mem_cons_of_mem _ (mem_cons_of_mem _ mem_cons_self)) with
    ⟨_, granting⟩
  rcases member (mem_cons_of_mem _ (mem_cons_of_mem _ (mem_cons_of_mem _
    mem_cons_self))) with ⟨putAt, putting⟩
  have read : storeReading delivery log = some reading := by
    rw [storeReading, exchanged]
    rfl
  exact ⟨expires, reading, parsed, read, isNonpositiveTtl_eq_false live, _, granting, _, putting,
    rfl, rfl, rfl, rfl, toString leaseId, grants_leaseGrant granted, said_putTxn _ _ _, txnResp,
    rfl, fresh⟩

theorem speaksAsCall_of_follows (etcd : ∀ delivery, stores delivery = .etcd)
    (follows : ∀ delivery, (deliver (stores delivery) skew (requests delivery)).Follows
      (Occurrence.own delivery log)) : SpeaksAsCall log := by
  intro delivery
  rcases follows_deliver (follows delivery) with nothing | ⟨_, rest, exchanged, stops⟩
  · exact ⟨"", 0, [], .nothing, by simp [nothing]⟩
  have skips : ∀ exchange, (said exchange).isSome →
      (exchange ∈ Occurrence.own delivery log ↔ exchange ∈ rest) := by
    intro exchange speaks
    rw [exchanged, mem_cons]
    constructor
    · rintro (rfl | member)
      · cases speaks
      · exact member
    · exact .inr
  rcases stops with rfl | ⟨key, retainUntil, called⟩
  · exact ⟨"", 0, [], .nothing, skips⟩
  · rw [etcd delivery] at called
    exact ⟨key, retainUntil, rest, @EtcdAtomicReplayStore.conversation_of_follows _ _ _ _ 0 _ called, skips⟩

variable {first second : ι}

theorem outlived_of_redis {start : Expiring String}
    (redis : ∀ delivery, (stores delivery).service = .redis) (run : Admits RedisStep start log)
    (acceptedFirst : Accepted stores skew requests log first)
    (acceptedSecond : Accepted stores skew requests log second)
    (same : requests first = requests second) (different : first ≠ second) :
    ∃ retainUntil, Outlived retainUntil first second log ∨ Outlived retainUntil second first log := by
  have configured : ∀ delivery, ∃ waitQuorum, stores delivery = .redis waitQuorum := by
    intro delivery
    have service := redis delivery
    cases store : stores delivery with
    | redis waitQuorum => exact ⟨waitQuorum, rfl⟩
    | etcd =>
      rw [store] at service
      cases service
  obtain ⟨_, firstStore⟩ := configured first
  obtain ⟨_, secondStore⟩ := configured second
  rcases puts_of_accepted firstStore acceptedFirst with
    ⟨expires, reading, parsed, read, live, putting, inLog, rfl, puts⟩
  rcases puts_of_accepted secondStore acceptedSecond with
    ⟨_, laterReading, laterParsed, laterRead, laterLive, later, laterIn, rfl, again⟩
  rw [← same] at laterParsed again
  cases parsed.symm.trans laterParsed
  have distinct : putting ≠ later := fun equal => different (congrArg Occurrence.process equal)
  have clock : ∀ {occurrence}, occurrence ∈ log → OnClock occurrence.time :=
    fun member => onClock_of_mem run member
  refine ⟨saturatingAdd expires skew, ?_⟩
  have sets : ∀ {occurrence : Occurrence ι Reply} {key ttlMs}, Puts occurrence key ttlMs →
      startsTtl occurrence.exchange = true ∧ decides occurrence.exchange = true := by
    rintro occurrence key ttlMs ⟨_, exchanged⟩
    rw [exchanged]
    exact ⟨rfl, rfl⟩
  rcases (pairwise_putsApart run).related_or inLog laterIn distinct with apart | apart
  · have past := lt_of_add_computeTtlMs_lt (clock inLog) (clock laterIn) (apart _ _ _ puts again)
    exact .inl ⟨putting, inLog, later, laterIn, rfl, rfl, (sets puts).1, (sets again).2, reading,
      read, laterReading, laterRead, live, laterLive, past.le⟩
  · have past := lt_of_add_computeTtlMs_lt (clock laterIn) (clock inLog) (apart _ _ _ again puts)
    exact .inr ⟨later, laterIn, putting, inLog, rfl, rfl, (sets again).1, (sets puts).2,
      laterReading, laterRead, reading, read, laterLive, live, past.le⟩

/-- Of two deliveries of one request accepted through etcd, one outlived the other's
lease. -/
theorem outlived_of_etcd {start : EtcdState} (etcd : ∀ delivery, (stores delivery).service = .etcd)
    (follows : ∀ delivery, (deliver (stores delivery) skew (requests delivery)).Follows
      (Occurrence.own delivery log)) (run : Admits EtcdStep start log)
    (acceptedFirst : Accepted stores skew requests log first)
    (acceptedSecond : Accepted stores skew requests log second)
    (same : requests first = requests second) (different : first ≠ second) :
    ∃ retainUntil, Outlived retainUntil first second log ∨ Outlived retainUntil second first log := by
  have configured : ∀ delivery, stores delivery = .etcd := by
    intro delivery
    have service := etcd delivery
    cases store : stores delivery with
    | etcd => rfl
    | redis waitQuorum =>
      rw [store] at service
      cases service
  have speaks := speaksAsCall_of_follows configured follows
  rcases putsUnder_of_accepted (configured first) acceptedFirst with
    ⟨expires, reading, parsed, read, live, granting, grantingIn, putting, inLog, own, rfl, starts,
      decided, lease, grants, puts⟩
  rcases putsUnder_of_accepted (configured second) acceptedSecond with
    ⟨_, laterReading, laterParsed, laterRead, laterLive, laterGranting, laterGrantingIn, later,
      laterIn, laterOwn, rfl, laterStarts, laterDecided, laterLease, laterGrants, again⟩
  rw [← same] at laterParsed again
  cases parsed.symm.trans laterParsed
  have distinct : putting ≠ later := fun equal => different (congrArg Occurrence.process equal)
  have clock : ∀ {occurrence}, occurrence ∈ log → OnClock occurrence.time :=
    fun member => onClock_of_mem_etcd run member
  have apart := (pairwise_leaseApart speaks run grantingIn grants).and
    (pairwise_leaseApart speaks run laterGrantingIn laterGrants)
  refine ⟨saturatingAdd expires skew, ?_⟩
  rcases apart.related_or inLog laterIn distinct with ⟨apart, _⟩ | ⟨_, apart⟩
  · have past := le_of_add_computeTtlSecs_le (clock grantingIn) (clock laterIn)
      (apart _ _ puts again)
    exact .inl ⟨granting, grantingIn, later, laterIn, own, rfl, starts, laterDecided, reading,
      read, laterReading, laterRead, live, laterLive, past⟩
  · have past := le_of_add_computeTtlSecs_le (clock laterGrantingIn) (clock inLog)
      (apart _ _ again puts)
    exact .inr ⟨laterGranting, laterGrantingIn, putting, inLog, laterOwn, rfl, laterStarts, decided,
      laterReading, laterRead, reading, read, laterLive, live, past⟩

/-- Deliveries in step accept no request twice. -/
theorem deliver_accepts_once {service : Service} (run : SharedRun service stores skew requests log)
    (inStep : InStep requests log) :
    ∀ first second, Accepted stores skew requests log first →
      Accepted stores skew requests log second → requests first = requests second →
      first = second := by
  intro first second acceptedFirst acceptedSecond same
  by_contra different
  have outlived : ∃ retainUntil, Outlived retainUntil first second log ∨
      Outlived retainUntil second first log := by
    cases service with
    | redis =>
      rcases run.served with ⟨start, served⟩
      exact outlived_of_redis run.shares served acceptedFirst acceptedSecond same different
    | etcd =>
      rcases run.served with ⟨start, served⟩
      exact outlived_of_etcd run.shares run.follows served acceptedFirst acceptedSecond same
        different
  rcases outlived with ⟨_, outlived | outlived⟩
  · exact inStep.not_outlived different same outlived
  · exact inStep.not_outlived (Ne.symm different) same.symm outlived

end

/-! ## Two proxies within the tolerated skew -/

/-- What a proxy reads on one of its clocks. -/
def anyReading : RemoteExchange → Option Int
  | ⟨now, reading⟩ => some reading
  | ⟨storeClock, reading⟩ => some reading
  | _ => none

/-- Every reading is within the skew of the service's clock. -/
def WithinSkew {ι : Type} (skew : Int) (log : List (Occurrence ι Reply)) : Prop :=
  ∀ occurrence ∈ log, ∀ reading ∈ anyReading occurrence.exchange,
    reading ≤ occurrence.time / 1000 + skew ∧ occurrence.time / 1000 ≤ reading + skew

instance {ι : Type} (skew : Int) (log : List (Occurrence ι Reply)) :
    Decidable (WithinSkew skew log) :=
  inferInstanceAs (Decidable (∀ occurrence ∈ log, ∀ reading ∈ anyReading occurrence.exchange,
    reading ≤ occurrence.time / 1000 + skew ∧ occurrence.time / 1000 ≤ reading + skew))

/-- A request that is delivered twice. -/
def repeatedRequest : RequestClaims where
  verifiedSigner := "did:example:agent-1"
  keyId := "key-1"
  onBehalfOf := "did:example:user-1"
  audience := "did:example:server-1"
  authorization := .draft01Hash "sha256:YXJ0aWZhY3Q"
  nonce := "bm9uY2UtMQ"
  issuedAt := "2026-05-28T20:00:00Z"
  expiresAt := "2026-05-28T20:05:00Z"
  canonicalizationId := none

/-- The digest of the request's key. -/
@[reducible] def repeatedCrates : Crates :=
  referenceCrates "wbDOsI1ZxGZY0zP5uAS5hc8gtK_v9akyEy_u6aEvZAo" [] []

/-- Padded base64. -/
def b64StandardEncodeBytes (bytes : Bytes) : String :=
  let standard (c : Char) : Char := if c = '-' then '+' else if c = '_' then '/' else c
  String.ofList ((textChars (b64urlEncodeBytes bytes)).map standard ++
    List.replicate ((3 - bytes.length % 3) % 3) '=')

@[reducible] def repeatedBase64 : StandardBase64 := ⟨b64StandardEncodeBytes⟩

section

variable [Crates]

/-- One delivery by a proxy with the given reading on both clocks, and what Redis answers
to its `SET`. -/
def deliveryLog (delivery : Bool) (time reading : Int) (ttlMs : Nat)
    (reply : Except RedisError (Option String)) : List (Occurrence Bool Reply) :=
  [⟨delivery, time, ⟨now, reading⟩⟩, ⟨delivery, time + 1, ⟨storeClock, reading⟩⟩,
    ⟨delivery, time + 2, ⟨lockConnection, .ok ()⟩⟩,
    ⟨delivery, time + 3, ⟨redisSet (requestKey repeatedRequest) ttlMs, reply⟩⟩]

/-- The first proxy's clock is sixty seconds ahead of Redis, the second one's is right. -/
def skewedLog : List (Occurrence Bool Reply) :=
  deliveryLog false 1779998640000 1779998700 60000 (.ok (some "OK")) ++
    deliveryLog true 1779998701000 1779998701 59000 (.ok (some "OK"))

/-- Both proxies' clocks are right. -/
def steadyLog : List (Occurrence Bool Reply) :=
  deliveryLog false 1779998640000 1779998640 120000 (.ok (some "OK")) ++
    deliveryLog true 1779998701000 1779998701 59000 (.ok none)

variable [StandardBase64]

theorem runs_repeatedRequest {reading : Int} {ttlMs : Nat} {reply : Option String}
    {decision : ReplayDecision}
    (fresh : checkFreshness "2026-05-28T20:00:00Z" "2026-05-28T20:05:00Z" reading 60 = .ok ())
    (positive : isNonpositiveTtl 1779998760 reading = false)
    (ttl : computeTtlMs 1779998760 reading = ttlMs)
    (decided : decision = if reply.isSome then .fresh else .replay) :
    (deliver (.redis none) 60 repeatedRequest).Runs
      [⟨now, reading⟩, ⟨storeClock, reading⟩, ⟨lockConnection, .ok ()⟩,
        ⟨redisSet (requestKey repeatedRequest) ttlMs, .ok reply⟩] (.ok decision) := by
  have parsed : parseRfc3339Utc "2026-05-28T20:05:00Z" = .ok 1779998700 := by decide +kernel
  apply @runs_deliver_of_fresh _ _ _ _ _ reading 1779998700 _ _ fresh parsed
  apply @RedisAtomicReplayStore.runs_insertIfAbsent_of_positive none _ _ 0 _ _ _ positive
  rw [ttl, decided]
  cases reply with
  | none | some _ => exact ⟨_, _, rfl, rfl, rfl⟩

end

theorem serves_deliveryLogs :
    letI := repeatedCrates
    Service.redis.Serves skewedLog ∧ Service.redis.Serves steadyLog := by
  constructor
  all_goals
    refine ⟨⟨0, []⟩, _, ⟨by decide, by decide +kernel, rfl⟩, _, ⟨by decide, by decide +kernel, rfl⟩,
      _, ⟨by decide, by decide +kernel, rfl⟩, _, ⟨by decide, by decide +kernel, ?_, rfl⟩,
      _, ⟨?_, by decide +kernel, rfl⟩, _, ⟨?_, by decide +kernel, rfl⟩,
      _, ⟨?_, by decide +kernel, rfl⟩, _, ⟨?_, by decide +kernel, ?_, rfl⟩, trivial⟩
    all_goals decide +kernel

/-- Two proxies whose clocks are within the tolerated skew accept one request twice. -/
theorem deliver_accepts_twice :
    letI := repeatedCrates
    letI := repeatedBase64
    SharedRun .redis (fun _ : Bool => .redis none) 60 (fun _ => repeatedRequest) skewedLog ∧
      WithinSkew 60 skewedLog ∧
      Accepted (fun _ : Bool => .redis none) 60 (fun _ => repeatedRequest) skewedLog false ∧
      Accepted (fun _ : Bool => .redis none) 60 (fun _ => repeatedRequest) skewedLog true := by
  let crates := repeatedCrates
  let base64 := repeatedBase64
  have first : Accepted (fun _ : Bool => .redis none) 60 (fun _ => repeatedRequest) skewedLog
      false :=
    runs_repeatedRequest (by decide +kernel) (by decide +kernel) (by decide +kernel) rfl
  have second : Accepted (fun _ : Bool => .redis none) 60 (fun _ => repeatedRequest) skewedLog
      true :=
    runs_repeatedRequest (by decide +kernel) (by decide +kernel) (by decide +kernel) rfl
  exact ⟨⟨fun _ => rfl, Bool.forall_bool.mpr ⟨first.follows, second.follows⟩,
    serves_deliveryLogs.1⟩, by decide +kernel, first, second⟩

/-- Two proxies with right clocks: the first delivery is accepted, so the second is not. -/
theorem deliver_accepts_once_steady :
    letI := repeatedCrates
    letI := repeatedBase64
    SharedRun .redis (fun _ : Bool => .redis none) 60 (fun _ => repeatedRequest) steadyLog ∧
      InStep (fun _ => repeatedRequest) steadyLog ∧
      Accepted (fun _ : Bool => .redis none) 60 (fun _ => repeatedRequest) steadyLog false ∧
      ¬ Accepted (fun _ : Bool => .redis none) 60 (fun _ => repeatedRequest) steadyLog true := by
  let crates := repeatedCrates
  let base64 := repeatedBase64
  have first : Accepted (fun _ : Bool => .redis none) 60 (fun _ => repeatedRequest) steadyLog
      false :=
    runs_repeatedRequest (by decide +kernel) (by decide +kernel) (by decide +kernel) rfl
  have second : (deliver (.redis none) 60 repeatedRequest).Runs
      (Occurrence.own true steadyLog) (.ok .replay) :=
    runs_repeatedRequest (by decide +kernel) (by decide +kernel) (by decide +kernel) rfl
  have run : SharedRun .redis (fun _ : Bool => .redis none) 60 (fun _ => repeatedRequest)
      steadyLog :=
    ⟨fun _ => rfl, Bool.forall_bool.mpr ⟨first.follows, second.follows⟩, serves_deliveryLogs.2⟩
  have inStep : InStep (fun _ => repeatedRequest) steadyLog := by
    unfold InStep
    decide +kernel
  refine ⟨run, inStep, first, ?_⟩
  intro accepted
  cases deliver_accepts_once run inStep false true first accepted rfl

end Mcps.Proxy
