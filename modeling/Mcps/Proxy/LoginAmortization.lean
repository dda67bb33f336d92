import Mcps.Lib.Transition

/-!
# One login for many operations

A session of a PKCS#11 token is opened and logged in once, cached behind a mutex and reused.
An operation that finds it invalid drops it, opens one fresh session and is tried once more.
A call that panics leaves the mutex poisoned, and then no call gets past it.

What the factory and the operation answer is given with each call.  Sessions are told apart by
the login that opened them, since the token may give a handle out again.
-/

namespace Mcps.Proxy.Pkcs11

open List

/-- What a callee gives back, if it returns. -/
inductive Outcome (α : Type) where
  | returned (value : α)
  | panicked
  deriving DecidableEq, Repr

inductive KeyError where
  | notFound (message : String)
  | malformed (message : String)
  deriving DecidableEq, Repr

/-- Why an operation failed: a session that a fresh one may replace, or a failure to report. -/
inductive SessionOpError where
  | sessionInvalid (error : KeyError)
  | fatal (error : KeyError)
  deriving DecidableEq, Repr

/-- An open session: its handle and the number of logins before its own. -/
structure Session (H : Type) where
  generation : Nat
  handle : H
  deriving DecidableEq, Repr

/-- The first try of a call, or the one on a fresh session. -/
inductive Attempt where
  | first
  | retry
  deriving DecidableEq, Repr

/-- The answers a call meets: of `open_logged_in`, and of `op` on the session it is given. -/
structure Call (H T : Type) where
  openLoggedIn : Attempt → Outcome (Except KeyError H)
  op : Attempt → Session H → Outcome (Except SessionOpError T)

/-- What a call does outside. -/
inductive Event (H T : Type) where
  | opened (session : Session H)
  | unopened (failure : Outcome KeyError)
  | ran (session : Session H) (outcome : Outcome (Except SessionOpError T))

structure Answer (H T : Type) where
  events : List (Event H T)
  result : Outcome (Except KeyError T)

/-- The mutex with its cached session, and how many logins the factory was asked for. -/
structure AmortizedSession (H : Type) where
  cached : Option (Session H)
  poisoned : Bool
  logins : Nat
  deriving DecidableEq, Repr

variable {H T : Type}

def Answer.after (event : Event H T) (answer : Answer H T × AmortizedSession H) :
    Answer H T × AmortizedSession H :=
  (⟨event :: answer.1.events, answer.1.result⟩, answer.2)

namespace AmortizedSession

def new : AmortizedSession H := ⟨none, false, 0⟩

/-- The factory was asked once more. -/
def login (amortized : AmortizedSession H) : AmortizedSession H :=
  { amortized with logins := amortized.logins + 1 }

/-- A panic while the guard is held. -/
def poison (amortized : AmortizedSession H) : AmortizedSession H :=
  { amortized with poisoned := true }

def cache (amortized : AmortizedSession H) (session : Session H) : AmortizedSession H :=
  { amortized with cached := some session }

def clear (amortized : AmortizedSession H) : AmortizedSession H :=
  { amortized with cached := none }

/-- The operation again, on a fresh session that is kept only if it succeeds. -/
def retryFresh (amortized : AmortizedSession H) (call : Call H T) :
    Answer H T × AmortizedSession H :=
  match call.openLoggedIn .retry with
  | .panicked => (⟨[.unopened .panicked], .panicked⟩, amortized.login.poison)
  | .returned (.error error) => (⟨[.unopened (.returned error)], .returned (.error error)⟩, amortized.login)
  | .returned (.ok handle) =>
    let session : Session H := ⟨amortized.logins, handle⟩
    let outcome := call.op .retry session
    let events := [.opened session, .ran session outcome]
    match outcome with
    | .panicked => (⟨events, .panicked⟩, amortized.login.poison)
    | .returned (.ok value) =>
      (⟨events, .returned (.ok value)⟩, amortized.login.cache session)
    | .returned (.error (.fatal error)) => (⟨events, .returned (.error error)⟩, amortized.login)
    | .returned (.error (.sessionInvalid error)) =>
      (⟨events, .returned (.error error)⟩, amortized.login)

/-- The operation on the cached session. -/
def runCached (amortized : AmortizedSession H) (call : Call H T) (session : Session H) :
    Answer H T × AmortizedSession H :=
  let outcome := call.op .first session
  match outcome with
  | .panicked => (⟨[.ran session outcome], .panicked⟩, amortized.poison)
  | .returned (.ok value) => (⟨[.ran session outcome], .returned (.ok value)⟩, amortized)
  | .returned (.error (.fatal error)) =>
    (⟨[.ran session outcome], .returned (.error error)⟩, amortized)
  | .returned (.error (.sessionInvalid _)) =>
    Answer.after (.ran session outcome) (amortized.clear.retryFresh call)

def poisonedMutex : KeyError :=
  .notFound "pkcs11: session mutex poisoned: poisoned lock: another task failed inside"

/-- Run an operation on a logged-in session, the cached one if there is one. -/
def withSession (amortized : AmortizedSession H) (call : Call H T) :
    Answer H T × AmortizedSession H :=
  if amortized.poisoned then (⟨[], .returned (.error poisonedMutex)⟩, amortized)
  else
    match amortized.cached with
    | some session => amortized.runCached call session
    | none =>
      match call.openLoggedIn .first with
      | .panicked => (⟨[.unopened .panicked], .panicked⟩, amortized.login.poison)
      | .returned (.error error) =>
        (⟨[.unopened (.returned error)], .returned (.error error)⟩, amortized.login)
      | .returned (.ok handle) =>
        let session : Session H := ⟨amortized.logins, handle⟩
        Answer.after (.opened session)
          ((amortized.login.cache session).runCached call session)

end AmortizedSession

/-! ## What a call can do -/

namespace Event

/-- A call of `open_logged_in`. -/
@[simp] def isOpen : Event H T → Bool
  | .opened _ | .unopened _ => true
  | .ran _ _ => false

@[simp] def isFailedOpen : Event H T → Bool
  | .unopened (.returned _) => true
  | _ => false

@[simp] def isRun : Event H T → Bool
  | .ran _ _ => true
  | _ => false

/-- The generation of the session that an event opens. -/
@[simp] def opens? : Event H T → Option Nat
  | .opened session => some session.generation
  | _ => none

/-- The generation of the session that the operation is run on. -/
@[simp] def uses? : Event H T → Option Nat
  | .ran session _ => some session.generation
  | _ => none

/-- The generation of the session that the operation finds invalid. -/
@[simp] def invalidates? : Event H T → Option Nat
  | .ran session (.returned (.error (.sessionInvalid _))) => some session.generation
  | _ => none

theorem uses?_of_invalidates? {event : Event H T} {generation : Nat}
    (invalid : event.invalidates? = some generation) : event.uses? = some generation := by
  unfold invalidates? at invalid
  split at invalid
  · exact invalid
  · cases invalid

end Event

/-- What the operation on a session can lead to after so many logins: it settles the call, or
the session is invalid and either no other is opened or the operation runs on a fresh one, which
is kept only if it is valid. -/
inductive Runs (session : Session H) (logins : Nat) :
    List (Event H T) → AmortizedSession H → Prop where
  | settled {after : AmortizedSession H} (outcome : Outcome (Except SessionOpError T))
      (valid : (Event.ran session outcome).invalidates? = none)
      (kept : after.cached = some session) (same : after.logins = logins) :
      Runs session logins [.ran session outcome] after
  | unopened {after : AmortizedSession H} (error : KeyError) (failure : Outcome KeyError)
      (empty : after.cached = none) (counted : after.logins = logins + 1) :
      Runs session logins
        [.ran session (.returned (.error (.sessionInvalid error))), .unopened failure] after
  | retried {after : AmortizedSession H} (error : KeyError) (handle : H)
      (outcome : Outcome (Except SessionOpError T))
      (left : after.cached = none ∨ after.cached = some ⟨logins, handle⟩ ∧
        (Event.ran (T := T) ⟨logins, handle⟩ outcome).invalidates? = none)
      (counted : after.logins = logins + 1) :
      Runs session logins [.ran session (.returned (.error (.sessionInvalid error))),
        .opened ⟨logins, handle⟩, .ran ⟨logins, handle⟩ outcome] after

/-- What a call of `with_session` can lead to. -/
inductive Conducts (before : AmortizedSession H) :
    List (Event H T) → AmortizedSession H → Prop where
  | refused : Conducts before [] before
  | unopened {after : AmortizedSession H} (failure : Outcome KeyError)
      (empty : before.cached = none) (sound : before.poisoned = false)
      (kept : after.cached = none) (counted : after.logins = before.logins + 1)
      (poisons : failure = .panicked → after.poisoned = true) :
      Conducts before [.unopened failure] after
  | reused {after : AmortizedSession H} {session : Session H} {events : List (Event H T)}
      (cached : before.cached = some session)
      (runs : Runs session before.logins events after) : Conducts before events after
  | opened {after : AmortizedSession H} {events : List (Event H T)} (handle : H)
      (empty : before.cached = none) (sound : before.poisoned = false)
      (runs : Runs ⟨before.logins, handle⟩ (before.logins + 1) events after) :
      Conducts before (.opened ⟨before.logins, handle⟩ :: events) after

variable {before after : AmortizedSession H} {session : Session H} {logins generation : Nat}
  {events : List (Event H T)}

theorem runs_runCached (call : Call H T) (cached : before.cached = some session) :
    Runs session before.logins (before.runCached call session).1.events
      (before.runCached call session).2 := by
  unfold AmortizedSession.runCached
  cases call.op .first session with
  | panicked => exact .settled _ rfl cached rfl
  | returned outcome =>
    cases outcome with
    | ok value => exact .settled _ rfl cached rfl
    | error error =>
      cases error with
      | fatal error => exact .settled _ rfl cached rfl
      | sessionInvalid error =>
        simp only [AmortizedSession.retryFresh]
        cases call.openLoggedIn .retry with
        | panicked => exact .unopened error _ rfl rfl
        | returned reopened =>
          cases reopened with
          | error failure => exact .unopened error _ rfl rfl
          | ok handle =>
            simp only []
            cases call.op .retry ⟨before.clear.logins, handle⟩ with
            | panicked => exact .retried error handle _ (.inl rfl) rfl
            | returned outcome =>
              cases outcome with
              | ok value => exact .retried error handle _ (.inr ⟨rfl, rfl⟩) rfl
              | error failure =>
                cases failure with
                | fatal failure => exact .retried error handle _ (.inl rfl) rfl
                | sessionInvalid failure =>
                  exact .retried error handle _ (.inl rfl) rfl

theorem conducts_withSession (before : AmortizedSession H) (call : Call H T) :
    Conducts before (before.withSession call).1.events (before.withSession call).2 := by
  unfold AmortizedSession.withSession
  cases poisoned : before.poisoned with
  | true => exact .refused
  | false =>
    cases cached : before.cached with
    | some session => exact .reused cached (runs_runCached call cached)
    | none =>
      cases call.openLoggedIn .first with
      | panicked => exact .unopened _ cached poisoned cached rfl fun _ => rfl
      | returned outcome =>
        cases outcome with
        | error error => exact .unopened _ cached poisoned cached rfl nofun
        | ok handle =>
          let fresh : Session H := ⟨before.logins, handle⟩
          have runs := @runs_runCached _ _ (before.login.cache fresh) fresh call rfl
          exact .opened handle cached poisoned runs

/-! ## What a call costs -/

/-- Of the events of one call: at most two runs, the second after an invalid session, and at
most two logins. -/
structure Bounded (events : List (Event H T)) : Prop where
  runs : events.countP Event.isRun ≤ 2
  again : events.Pairwise fun earlier later =>
    earlier.isRun = true → later.isRun = true → earlier.invalidates?.isSome = true
  opens : events.countP Event.isOpen ≤ 2

/-- The operation found a session of the call invalid. -/
def Answer.foundInvalid (answer : Answer H T) : Bool :=
  answer.events.any fun event => event.invalidates?.isSome

/-- The login that the next call has to make in any case. -/
def AmortizedSession.owed (amortized : AmortizedSession H) : Nat :=
  if amortized.cached.isNone && !amortized.poisoned then 1 else 0

theorem Runs.bounded (runs : Runs session logins events after) :
    events.countP Event.isRun ≤ 2 ∧
      (events.Pairwise fun earlier later =>
        earlier.isRun = true → later.isRun = true → earlier.invalidates?.isSome = true) ∧
      events.countP Event.isOpen ≤ 1 := by
  cases runs with
  | _ => simp [countP_cons]

theorem Conducts.bounded (conducts : Conducts before events after) : Bounded events := by
  cases conducts with
  | refused => exact ⟨by simp, .nil, by simp⟩
  | unopened => exact ⟨by simp, by simp, by simp⟩
  | reused cached runs =>
    obtain ⟨few, again, opens⟩ := runs.bounded
    exact ⟨few, again, opens.trans one_le_two⟩
  | opened handle empty sound runs =>
    obtain ⟨few, again, opens⟩ := runs.bounded
    refine ⟨?_, pairwise_cons.mpr ⟨by simp, again⟩, ?_⟩
    · simpa [countP_cons] using few
    · simpa [countP_cons] using opens

theorem AmortizedSession.owed_le_one (amortized : AmortizedSession H) : amortized.owed ≤ 1 := by
  unfold owed
  split <;> omega

theorem Runs.covered (runs : Runs session logins events after) :
    events.countP Event.isOpen + after.owed ≤
      events.countP Event.isFailedOpen +
        2 * (events.any fun event => event.invalidates?.isSome).toNat := by
  have most := after.owed_le_one
  cases runs with
  | settled outcome valid kept => simp [AmortizedSession.owed, kept]
  | unopened =>
    simp [countP_cons]
    omega
  | retried =>
    simp [countP_cons]
    omega

theorem Conducts.covered (conducts : Conducts before events after) :
    events.countP Event.isOpen + after.owed ≤
      before.owed + (events.countP Event.isFailedOpen +
        2 * (events.any fun event => event.invalidates?.isSome).toNat) := by
  have most := after.owed_le_one
  cases conducts with
  | refused => simp
  | unopened failure empty sound kept counted poisons =>
    have once : before.owed = 1 := by simp [AmortizedSession.owed, empty, sound]
    cases failure with
    | returned error =>
      simp [once]
      omega
    | panicked =>
      have poisoned : after.owed = 0 := by simp [AmortizedSession.owed, poisons]
      simp [once, poisoned]
  | reused cached runs => exact runs.covered.trans (Nat.le_add_left _ _)
  | opened handle empty sound runs =>
    have once : before.owed = 1 := by simp [AmortizedSession.owed, empty, sound]
    have covered := runs.covered
    rw [countP_cons_of_pos rfl, countP_cons_of_neg (by simp), any_cons, once]
    change _ + 1 + _ ≤ 1 + (_ + 2 * (any _ _).toNat)
    omega

/-! ## Which session is held -/

/-- The generation of the session that is held, and how many logins there were. -/
structure Custody where
  held : Option Nat
  logins : Nat

def AmortizedSession.custody (amortized : AmortizedSession H) : Custody :=
  ⟨amortized.cached.map Session.generation, amortized.logins⟩

theorem AmortizedSession.held_custody (amortized : AmortizedSession H)
    (cached : amortized.cached = some session) :
    amortized.custody.held = some session.generation := by
  rw [custody, cached]
  rfl

/-- The discipline of sessions: a login opens one of a new generation, the operation runs on the
one that is held, and one found invalid is not held any more. -/
def Custody.Step (state : Custody) (event : Event H T) (next : Custody) : Prop :=
  match event with
  | .opened session =>
    session.generation = state.logins ∧ next = ⟨some state.logins, state.logins + 1⟩
  | .unopened _ => next = ⟨none, state.logins + 1⟩
  | .ran session outcome =>
    state.held = some session.generation ∧ next.logins = state.logins ∧
      (next.held = none ∨
        next.held = state.held ∧ (Event.ran session outcome).invalidates? = none)

theorem Runs.admits (runs : Runs session logins events after) {rest : List (Event H T)}
    (later : Admits Custody.Step after.custody rest) :
    Admits Custody.Step ⟨some session.generation, logins⟩ (events ++ rest) := by
  cases runs with
  | settled outcome valid kept same =>
    exact ⟨after.custody, ⟨rfl, same, .inr ⟨after.held_custody kept, valid⟩⟩, later⟩
  | unopened error failure empty counted =>
    refine ⟨⟨none, logins⟩, ⟨rfl, rfl, .inl rfl⟩, after.custody, ?_, later⟩
    simp [Custody.Step, AmortizedSession.custody, empty, counted]
  | retried error handle outcome left counted =>
    refine ⟨⟨none, logins⟩, ⟨rfl, rfl, .inl rfl⟩, ⟨some logins, logins + 1⟩, ⟨rfl, rfl⟩,
      after.custody, ⟨rfl, counted, ?_⟩, later⟩
    obtain empty | ⟨kept, valid⟩ := left
    · exact .inl (congrArg (Option.map Session.generation) empty)
    · exact .inr ⟨after.held_custody kept, valid⟩

theorem Conducts.admits (conducts : Conducts before events after) {rest : List (Event H T)}
    (later : Admits Custody.Step after.custody rest) :
    Admits Custody.Step before.custody (events ++ rest) := by
  cases conducts with
  | refused => exact later
  | unopened failure empty sound kept counted =>
    refine ⟨after.custody, ?_, later⟩
    simp [Custody.Step, AmortizedSession.custody, kept, counted]
  | reused cached runs =>
    have held := runs.admits later
    rwa [AmortizedSession.custody, cached]
  | opened handle empty sound runs => exact ⟨_, ⟨rfl, rfl⟩, runs.admits later⟩

/-- Two events of different openings, the later one not on a session found invalid. -/
def Event.Apart (earlier later : Event H T) : Prop :=
  (∀ generation, earlier.opens? = some generation → later.opens? ≠ some generation) ∧
    ∀ generation, earlier.invalidates? = some generation → later.uses? ≠ some generation

/-- A session that was opened is counted, and one found invalid is not held. -/
def Event.Past (event : Event H T) (state : Custody) : Prop :=
  (∀ generation, event.opens? = some generation → generation < state.logins) ∧
    ∀ generation, event.invalidates? = some generation →
      generation < state.logins ∧ state.held ≠ some generation

/-- What is held was opened by a login that was counted. -/
def Custody.Numbered (state : Custody) : Prop :=
  ∀ generation, state.held = some generation → generation < state.logins

variable {state next : Custody} {event earlier : Event H T}

theorem Custody.Step.numbered (step : state.Step event next) (numbered : state.Numbered) :
    next.Numbered := by
  intro generation held
  cases event with
  | opened session =>
    obtain ⟨same, rfl⟩ := step
    cases held
    exact Nat.lt_succ_self _
  | unopened failure =>
    cases step
    cases held
  | ran session outcome =>
    obtain ⟨_, counted, empty | ⟨same, _⟩⟩ := step
    · cases empty.symm.trans held
    · rw [counted]
      exact numbered generation (same ▸ held)

theorem Custody.Step.past (step : state.Step event next) (numbered : state.Numbered) :
    event.Past next := by
  cases event with
  | opened session =>
    obtain ⟨same, rfl⟩ := step
    refine ⟨?_, nofun⟩
    intro generation opened
    cases opened
    exact same ▸ Nat.lt_succ_self _
  | unopened failure => exact ⟨nofun, nofun⟩
  | ran session outcome =>
    obtain ⟨kept, counted, dropped⟩ := step
    refine ⟨nofun, ?_⟩
    intro generation invalid
    have used : state.held = some generation := kept.trans (Event.uses?_of_invalidates? invalid)
    refine ⟨counted ▸ numbered generation used, ?_⟩
    obtain empty | ⟨same, valid⟩ := dropped
    · rw [empty]
      nofun
    · rw [valid] at invalid
      cases invalid

theorem Event.Past.step (past : earlier.Past state) (step : state.Step event next) :
    earlier.Past next := by
  cases event with
  | opened session =>
    obtain ⟨same, rfl⟩ := step
    refine ⟨fun generation opened => (past.1 generation opened).trans (Nat.lt_succ_self _), ?_⟩
    intro generation invalid
    have spent := past.2 generation invalid
    refine ⟨spent.1.trans (Nat.lt_succ_self _), ?_⟩
    intro held
    cases held
    exact spent.1.ne rfl
  | unopened failure =>
    cases step
    exact ⟨fun generation opened => (past.1 generation opened).trans (Nat.lt_succ_self _),
      fun generation invalid =>
        ⟨(past.2 generation invalid).1.trans (Nat.lt_succ_self _), nofun⟩⟩
  | ran session outcome =>
    obtain ⟨_, counted, dropped⟩ := step
    unfold Past
    rw [counted]
    refine ⟨past.1, ?_⟩
    intro generation invalid
    refine ⟨(past.2 generation invalid).1, ?_⟩
    obtain empty | ⟨same, _⟩ := dropped
    · rw [empty]
      nofun
    · rw [same]
      exact (past.2 generation invalid).2

theorem Event.Past.apart (past : earlier.Past state) (step : state.Step event next) :
    earlier.Apart event := by
  cases event with
  | opened session =>
    refine ⟨?_, nofun⟩
    intro generation opened again
    cases again
    exact (past.1 _ opened).ne step.1
  | unopened failure => exact ⟨nofun, nofun⟩
  | ran session outcome =>
    refine ⟨nofun, ?_⟩
    intro generation invalid again
    cases again
    exact (past.2 _ invalid).2 step.1

/-! ## Any number of calls -/

/-- Calls of `with_session` one after the other. -/
def sessions (H T : Type) : Machine (AmortizedSession H) (Call H T) (Answer H T) :=
  ⟨AmortizedSession.withSession⟩

/-- Everything that the calls do outside, in order. -/
def log (before : AmortizedSession H) (calls : List (Call H T)) : List (Event H T) :=
  ((sessions H T).answers before calls).flatMap Answer.events

theorem admits_log (before : AmortizedSession H) (calls : List (Call H T)) :
    Admits Custody.Step before.custody (log before calls) := by
  induction calls generalizing before with
  | nil => trivial
  | cons call calls ih => exact (conducts_withSession before call).admits (ih _)

theorem pairwise_apart_log (calls : List (Call H T)) : (log .new calls).Pairwise Event.Apart := by
  refine @Admits.pairwise _ _ Custody.Step _ _ Custody.Numbered (fun _ => True) Event.Past
    (fun _ _ => True) _ ?_ ?_ ?_ ?_ (by simp [Custody.Numbered, AmortizedSession.custody,
      AmortizedSession.new]) (fun _ _ => trivial) (fun _ _ _ _ => trivial)
    (admits_log .new calls)
  · exact fun numbered _ step => step.numbered numbered
  · exact fun numbered _ step => step.past numbered
  · exact fun past _ step => past.step step
  · exact fun past _ step => past.apart step

theorem bounded_answers (before : AmortizedSession H) (calls : List (Call H T)) :
    ∀ answer ∈ (sessions H T).answers before calls, Bounded answer.events := by
  induction calls generalizing before with
  | nil => nofun
  | cons call calls ih =>
    exact forall_mem_cons.mpr ⟨(conducts_withSession before call).bounded, ih _⟩

theorem countP_foundInvalid (answers : List (Answer H T)) :
    (answers.map fun answer => answer.foundInvalid.toNat).sum =
      answers.countP Answer.foundInvalid := by
  induction answers with
  | nil => rfl
  | cons answer answers ih =>
    rw [map_cons, sum_cons, ih, countP_cons]
    cases answer.foundInvalid with
    | true => simp [Nat.add_comm]
    | false => simp

theorem countP_isOpen_log (calls : List (Call H T)) :
    (log .new calls).countP Event.isOpen ≤
      1 + (log .new calls).countP Event.isFailedOpen +
        2 * ((sessions H T).answers .new calls).countP Answer.foundInvalid := by
  have covered := (sessions H T).sum_cost_le (fun answer => answer.events.countP Event.isOpen)
    (fun answer => answer.events.countP Event.isFailedOpen + 2 * answer.foundInvalid.toNat)
    AmortizedSession.owed (fun state call => (conducts_withSession state call).covered) .new calls
  rw [sum_map_add, sum_map_mul_left, countP_foundInvalid] at covered
  rw [log, countP_flatMap, countP_flatMap, Nat.add_assoc]
  exact covered

/-- Logins are amortized.  Whatever the factory and the operation answer, a call runs the
operation at most twice, the second time after an invalid session, and logs in at most twice;
every login opens a session of its own; a session found invalid is not used again; and each
login is the first one, a failed one or one of two for a call that met an invalid session. -/
theorem logins_amortized (calls : List (Call H T)) :
    (∀ answer ∈ (sessions H T).answers .new calls, Bounded answer.events) ∧
      ((log .new calls).filterMap Event.opens?).Nodup ∧
      ((log .new calls).Pairwise fun earlier later =>
        ∀ generation, earlier.invalidates? = some generation → later.uses? ≠ some generation) ∧
      (log .new calls).countP Event.isOpen ≤
        1 + (log .new calls).countP Event.isFailedOpen +
          2 * ((sessions H T).answers .new calls).countP Answer.foundInvalid := by
  have apart := pairwise_apart_log calls
  refine ⟨bounded_answers .new calls, ?_, apart.imp fun settled => settled.2,
    countP_isOpen_log calls⟩
  refine List.pairwise_filterMap.mpr (apart.imp ?_)
  intro earlier later settled first opened second reopened same
  exact settled.1 first opened (same ▸ reopened)

end Mcps.Proxy.Pkcs11
