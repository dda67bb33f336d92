import Mcps.Proxy.RedisStore

/-!
# Replay safety of the Redis store

Any number of calls of the Redis store, from any number of proxies, against one Redis.
The server keeps each key up to its deadline.  A command that ends in an error may have
been executed if the connection broke; whether it was, only the server knows.  Any two
`SET`s that both put a key are more than the first one's time to live apart.
-/

namespace Mcps.Proxy

open RemoteRequest List

/-! ## The server -/

/-- A value of the server's clock, a signed 64-bit count of milliseconds. -/
def OnClock (time : Int) : Prop := i64Min ≤ time ∧ time ≤ i64Max

instance (time : Int) : Decidable (OnClock time) :=
  inferInstanceAs (Decidable (i64Min ≤ time ∧ time ≤ i64Max))

theorem lt_of_add_computeTtlMs_lt {retainUntil nowUnix start time : Int} (starts : OnClock start)
    (ends : OnClock time) (past : start + computeTtlMs retainUntil nowUnix < time) :
    start + 1000 * (retainUntil - nowUnix) < time := by
  unfold OnClock i64Min i64Max at starts ends
  simp only [computeTtlMs, saturatingSub, clampI64, i64Max, u64Max] at past
  omega

/-- What one occurrence does to the server's keys. -/
def RedisStep {ι : Type} (store : Expiring String) (occurrence : Occurrence ι Reply)
    (next : Expiring String) : Prop :=
  store.now ≤ occurrence.time ∧ OnClock occurrence.time ∧
    match occurrence.exchange with
    | ⟨redisSet key ttlMs, .ok (some _)⟩ =>
      ¬ store.Live key occurrence.time ∧
        next = store.putIfAbsent key (occurrence.time + ttlMs) occurrence.time
    | ⟨redisSet key _, .ok none⟩ =>
      store.Live key occurrence.time ∧ next = store.advance occurrence.time
    | ⟨redisSet key ttlMs, .error e⟩ =>
      next = store.advance occurrence.time ∨
        isTransientConnectionError e = true ∧
          next = store.putIfAbsent key (occurrence.time + ttlMs) occurrence.time
    | _ => next = store.advance occurrence.time

section

variable {ι : Type} {store next : Expiring String} {occurrence : Occurrence ι Reply}
  {key : String} {ttlMs : Nat}

/-- The occurrence is a `SET` that put the key. -/
def Puts (occurrence : Occurrence ι Reply) (key : String) (ttlMs : Nat) : Prop :=
  ∃ text, occurrence.exchange = ⟨redisSet key ttlMs, .ok (some text)⟩

theorem RedisStep.cases (step : RedisStep store occurrence next) :
    next = store.advance occurrence.time ∨
      ∃ key deadline, next = store.putIfAbsent key deadline occurrence.time := by
  obtain ⟨_, _, step⟩ := step
  split at step
  next => exact .inr ⟨_, _, step.2⟩
  next => exact .inl step.2
  next =>
    rcases step with same | ⟨_, put⟩
    · exact .inl same
    · exact .inr ⟨_, _, put⟩
  next => exact .inl step

theorem RedisStep.of_puts (step : RedisStep store occurrence next)
    (puts : Puts occurrence key ttlMs) :
    ¬ store.Live key occurrence.time ∧
      next = store.putIfAbsent key (occurrence.time + ttlMs) occurrence.time := by
  obtain ⟨_, exchanged⟩ := puts
  obtain ⟨_, _, step⟩ := step
  rw [exchanged] at step
  exact step

/-- The second of two puts of one key comes after the deadline of the first. -/
def PutsApart (earlier later : Occurrence ι Reply) : Prop :=
  ∀ key ttlMs laterTtlMs, Puts earlier key ttlMs → Puts later key laterTtlMs →
    earlier.time + ttlMs < later.time

variable {log : List (Occurrence ι Reply)}

theorem pairwise_putsApart (run : Admits RedisStep store log) : log.Pairwise PutsApart := by
  apply @Admits.pairwise_of_bar _ _ RedisStep store log fun occurrence store =>
    ∀ key ttlMs, Puts occurrence key ttlMs → store.Holds key (occurrence.time + ttlMs)
  · intro store occurrence next step key ttlMs puts
    obtain ⟨absent, rfl⟩ := step.of_puts puts
    exact Expiring.holds_putIfAbsent absent
  · intro earlier store occurrence next held step key ttlMs puts
    have forward := step.1
    rcases step.cases with rfl | ⟨_, _, rfl⟩
    · exact (held key ttlMs puts).advance forward
    · exact (held key ttlMs puts).putIfAbsent forward
  · intro earlier store occurrence next held step key ttlMs laterTtlMs puts again
    exact (held key ttlMs puts).lt_of_not_live step.1 (step.of_puts again).1
  · exact run

theorem RedisStep.now_next (step : RedisStep store occurrence next) :
    next.now = occurrence.time := by
  rcases step.cases with rfl | ⟨_, _, rfl⟩
  · rfl
  · exact Expiring.now_putIfAbsent _ _ _ _

theorem pairwise_time_le (run : Admits RedisStep store log) :
    log.Pairwise fun earlier later => earlier.time ≤ later.time := by
  apply @Admits.pairwise_of_bar _ _ RedisStep store log fun occurrence store =>
    occurrence.time ≤ store.now
  · intro store occurrence next step
    exact step.now_next.ge
  · intro earlier store occurrence next held step
    exact held.trans (step.1.trans step.now_next.ge)
  · intro earlier store occurrence next held step
    exact held.trans step.1
  · exact run

theorem onClock_of_mem (run : Admits RedisStep store log) (member : occurrence ∈ log) :
    OnClock occurrence.time := by
  rcases Admits.forall_step (fun _ _ _ => trivial) trivial (fun _ _ => trivial) run
    occurrence member with ⟨_, _, _, step⟩
  exact step.2.1

end

/-! ## Calls -/

/-- One call of a store: its quorum, and the key and retention it is given. -/
structure RedisCall where
  waitQuorum : Option WaitQuorum
  key : String
  retainUntil : Int

def RedisCall.program (call : RedisCall) : Remote (Except ReplayStoreError ReplayDecision) :=
  RedisAtomicReplayStore.insertIfAbsent call.waitQuorum call.key call.retainUntil 0

/-- Calls against one Redis whose clock is the stores' clock, every `SET` of a call
arriving before the call's retention ends. -/
structure RedisRun {ι : Type} [DecidableEq ι] (calls : ι → RedisCall) (start : Expiring String)
    (log : List (Occurrence ι Reply)) : Prop where
  follows : ∀ call, (calls call).program.Follows (Occurrence.own call log)
  served : Admits RedisStep start log
  clock : ∀ occurrence ∈ log, ∀ now, occurrence.exchange = ⟨storeClock, now⟩ →
    now = occurrence.time / 1000
  inTime : ∀ occurrence ∈ log, ∀ key ttlMs reply,
    occurrence.exchange = ⟨redisSet key ttlMs, reply⟩ →
    occurrence.time < 1000 * (calls occurrence.process).retainUntil

section

variable {ι : Type} [DecidableEq ι] {calls : ι → RedisCall} {start : Expiring String}
  {log : List (Occurrence ι Reply)} {call first second : ι}

/-- The call has ended, with a fresh answer. -/
def ReturnsFresh (calls : ι → RedisCall) (log : List (Occurrence ι Reply)) (call : ι) : Prop :=
  (calls call).program.Runs (Occurrence.own call log) (.ok .fresh)

theorem RedisRun.puts_of_fresh (run : RedisRun calls start log)
    (fresh : ReturnsFresh calls log call) :
    ∃ occurrence ∈ log, occurrence.process = call ∧ ∃ now,
      Puts occurrence (calls call).key (computeTtlMs (calls call).retainUntil now) ∧
        1000 * now ≤ occurrence.time := by
  rcases RedisAtomicReplayStore.runs_insertIfAbsent_fresh fresh with
    ⟨now, _, exchanged, _, inserted⟩
  obtain ⟨_, readAt, _, rfl, isRest⟩ := Occurrence.own_eq_cons exchanged
  obtain ⟨text, member⟩ := inserted.set
  rw [← isRest] at member
  obtain ⟨setAt, setIn⟩ := Occurrence.mem_own.mp member
  have ordered := pairwise_time_le run.served
  have readFirst : readAt ≤ setAt :=
    (pairwise_cons.mp (pairwise_append.mp ordered).2.1).1 _ setIn
  have reading := run.clock ⟨call, readAt, ⟨storeClock, now⟩⟩ (by simp) now rfl
  refine ⟨⟨call, setAt, _⟩, by simp [setIn], rfl, now, ⟨text, rfl⟩, ?_⟩
  have floor := Int.mul_ediv_self_le (x := readAt) (k := 1000) (by decide)
  rw [reading]
  exact floor.trans readFirst

theorem RedisRun.not_putsApart (run : RedisRun calls start log)
    {earlier later : Occurrence ι Reply} (inLog : earlier ∈ log) (laterInLog : later ∈ log)
    {key : String} {now laterNow retainUntil : Int}
    (puts : Puts earlier key (computeTtlMs retainUntil now)) (covered : 1000 * now ≤ earlier.time)
    (again : Puts later key (computeTtlMs retainUntil laterNow))
    (retained : (calls later.process).retainUntil = retainUntil) : ¬ PutsApart earlier later := by
  intro apart
  have past := lt_of_add_computeTtlMs_lt (onClock_of_mem run.served inLog)
    (onClock_of_mem run.served laterInLog) (apart key _ _ puts again)
  obtain ⟨_, exchanged⟩ := again
  have inTime := run.inTime later laterInLog _ _ _ exchanged
  omega

/-- Of the calls with one key and retention at most one returns fresh, and with a quorum
only after enough replicas acknowledged; no call sends more than two `SET`s or opens more
than one connection. -/
theorem insertIfAbsent_replay_safe (run : RedisRun calls start log) :
    (∀ first second, ReturnsFresh calls log first → ReturnsFresh calls log second →
      (calls first).key = (calls second).key →
      (calls first).retainUntil = (calls second).retainUntil → first = second) ∧
    (∀ call, ReturnsFresh calls log call → ∀ wait ∈ (calls call).waitQuorum,
      ∃ acked : Int, (wait.quorum : Int) ≤ acked ∧
        ⟨redisWait wait.quorum wait.timeoutMs, .ok acked⟩ ∈ Occurrence.own call log) ∧
    ∀ call, ((Occurrence.own call log).countP fun made => isRedisSet made.1) ≤ 2 ∧
      ((Occurrence.own call log).countP fun made => isRedisConnect made.1) ≤ 1 := by
  refine ⟨?_, ?_, ?_⟩
  · intro first second freshFirst freshSecond sameKey sameRetention
    rcases run.puts_of_fresh freshFirst with ⟨earlier, inLog, rfl, now, puts, covered⟩
    rcases run.puts_of_fresh freshSecond with ⟨later, laterInLog, rfl, laterNow, again, laterCovered⟩
    rw [← sameKey, ← sameRetention] at again
    by_contra different
    have distinct : earlier ≠ later := fun same => different (congrArg Occurrence.process same)
    rcases (pairwise_putsApart run.served).related_or inLog laterInLog distinct with apart | apart
    · exact run.not_putsApart inLog laterInLog puts covered again sameRetention.symm apart
    · exact run.not_putsApart laterInLog inLog again laterCovered puts rfl apart
  · intro call fresh wait configured
    rcases RedisAtomicReplayStore.runs_insertIfAbsent_fresh fresh with
      ⟨now, rest, exchanged, _, inserted⟩
    rcases inserted.acknowledged wait configured with ⟨acked, enough, member⟩
    rw [exchanged]
    exact ⟨acked, enough, List.mem_cons_of_mem _ member⟩
  · intro call
    constructor
    · exact RedisAtomicReplayStore.atMost_redisSet _ _ _ _ _ (run.follows call)
    · exact RedisAtomicReplayStore.atMost_redisConnect _ _ _ _ _ (run.follows call)

end

/-- Two calls with one key and retention, the first one with a quorum. -/
def racingCalls : Bool → RedisCall
  | false => ⟨some ⟨1, 100⟩, "key", 1779998760⟩
  | true => ⟨none, "key", 1779998760⟩

/-- The second call's `SET` finds the key and its reply is lost; the repeated one finds the
key as well. -/
def racingLog : List (Occurrence Bool Reply) :=
  [⟨false, 1779998400000, ⟨storeClock, 1779998400⟩⟩,
    ⟨true, 1779998400500, ⟨storeClock, 1779998400⟩⟩,
    ⟨true, 1779998400501, ⟨lockConnection, .ok ()⟩⟩,
    ⟨false, 1779998400502, ⟨lockConnection, .ok ()⟩⟩,
    ⟨false, 1779998400503, ⟨redisSet "key" 360000, .ok (some "OK")⟩⟩,
    ⟨true, 1779998400504, ⟨redisSet "key" 360000, .error ⟨"broken pipe", true, true, false, false⟩⟩⟩,
    ⟨false, 1779998400505, ⟨redisWait 1 100, .ok 2⟩⟩,
    ⟨true, 1779998400506, ⟨redisConnect, .ok ()⟩⟩,
    ⟨true, 1779998400507, ⟨redisSet "key" 360000, .ok none⟩⟩]

theorem racingCalls_positive : isNonpositiveTtl 1779998760 1779998400 = false := by
  decide +kernel

theorem returnsFresh_racingCalls : ReturnsFresh racingCalls racingLog false := by
  apply RedisAtomicReplayStore.runs_insertIfAbsent_of_positive racingCalls_positive
  exact ⟨_, _, rfl, _, _, rfl, rfl, rfl⟩

theorem runs_racingCalls : (racingCalls true).program.Runs (Occurrence.own true racingLog)
    (.ok .replay) := by
  apply RedisAtomicReplayStore.runs_insertIfAbsent_of_positive racingCalls_positive
  exact ⟨_, _, rfl, _, _, rfl, _, _, rfl, rfl, rfl⟩

theorem redisRun_racingLog : RedisRun racingCalls ⟨0, []⟩ racingLog where
  follows call := by
    cases call with
    | false => exact returnsFresh_racingCalls.follows
    | true => exact runs_racingCalls.follows
  served := by
    refine ⟨_, ⟨by decide, by decide +kernel, rfl⟩, _, ⟨by decide, by decide +kernel, rfl⟩,
      _, ⟨by decide, by decide +kernel, rfl⟩, _, ⟨by decide, by decide +kernel, rfl⟩,
      _, ⟨by decide, by decide +kernel, ?_, rfl⟩, _, ⟨?_, by decide +kernel, .inr ⟨rfl, rfl⟩⟩,
      _, ⟨?_, by decide +kernel, rfl⟩, _, ⟨?_, by decide +kernel, rfl⟩,
      _, ⟨?_, by decide +kernel, ?_, rfl⟩, trivial⟩
    all_goals decide +kernel
  clock := by
    intro occurrence member now exchanged
    simp only [racingLog, mem_cons, not_mem_nil, or_false] at member
    rcases member with rfl | rfl | rfl | rfl | rfl | rfl | rfl | rfl | rfl <;> cases exchanged <;>
      decide
  inTime := by
    intro occurrence member key ttlMs reply exchanged
    simp only [racingLog, mem_cons, not_mem_nil, or_false] at member
    rcases member with rfl | rfl | rfl | rfl | rfl | rfl | rfl | rfl | rfl <;> cases exchanged <;>
      decide

/-- The first call returns fresh, so the second does not. -/
theorem insertIfAbsent_replay_safe_racing :
    RedisRun racingCalls ⟨0, []⟩ racingLog ∧ ReturnsFresh racingCalls racingLog false ∧
      ¬ ReturnsFresh racingCalls racingLog true := by
  refine ⟨redisRun_racingLog, returnsFresh_racingCalls, ?_⟩
  intro fresh
  have same := (insertIfAbsent_replay_safe redisRun_racingLog).1 false true
    returnsFresh_racingCalls fresh rfl rfl
  cases same

end Mcps.Proxy
