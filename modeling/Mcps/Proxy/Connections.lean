import Mcps.Core.Vocabulary
import Mcps.Lib.Transition

/-!
# Connection slots of the TLS server

The accept loop reserves a slot for every connection by counting `in_flight` up, and drops
the connection if the server is saturated; otherwise a thread of its own serves it and
counts `in_flight` down at its end.  Every access to the counter is a step of its own, so
that the loop and the threads interleave between any two of them.

The thread counts down after the connection has been served, not on the way out of it: a
handler that panics unwinds past the release, and its slot is lost.
-/

namespace Mcps.Proxy.Serve

open List

/-! ## One connection -/

structure IoError where
  detail : String
  deriving DecidableEq, Repr

/-- How the parts of one connection behave; a handler without a response panics. -/
structure Connection where
  socketTimeouts : Except IoError Unit
  session : Except IoError Unit
  request : Except IoError Bytes
  rejection : Bytes → Option Bytes
  handler : Bytes → Option Bytes
  write : Bytes → Except IoError Unit

inductive ConnectionEnd where
  | returned (result : Except IoError Unit)
  | panicked

/-- Handle a single accepted stream: one request and one response. -/
def serveConnection (tcp : Connection) : ConnectionEnd :=
  let received : Except IoError Bytes := do
    tcp.socketTimeouts
    tcp.session
    tcp.request
  match received with
  | .error error => .returned (.error error)
  | .ok body =>
    match tcp.rejection body with
    | some error => .returned (tcp.write error)
    | none =>
      match tcp.handler body with
      | some response => .returned (tcp.write response)
      | none => .panicked

/-! ## The server -/

/-- Where a connection's thread stands: in `serve_connection`, after it, or at its end. -/
inductive Stage where
  | serving
  | served
  | released
  | panicked
  deriving DecidableEq, Repr

/-- The end of `serve_connection` is ignored if it returns, and unwinds the thread if not. -/
def ConnectionEnd.stage : ConnectionEnd → Stage
  | .returned _ => .served
  | .panicked => .panicked

def Stage.isTerminated : Stage → Bool
  | .serving | .served => false
  | .released | .panicked => true

structure Thread where
  tcp : Connection
  stage : Stage

/-- Where the accept loop stands: at its head, or with a slot counted for a connection it is
going to serve or to drop. -/
inductive Acceptor where
  | waiting
  | reserved (tcp : Connection)
  | refusing (tcp : Connection)

structure Server where
  acceptor : Acceptor
  inFlight : Nat
  threads : List Thread

def Server.start : Server := ⟨.waiting, 0, []⟩

/-- An atomic step of the accept loop or of the thread at a position. -/
inductive Event where
  | incoming (stream : Except IoError Connection)
  | spawn
  | refuse
  | finish (position : Nat)
  | release (position : Nat)

/-- The server after a step, if the step can be taken. -/
def step (maxConcurrentConnections : Nat) (server : Server) (event : Event) : Option Server :=
  match event, server.acceptor with
  | .incoming (.error _), .waiting => some server
  | .incoming (.ok tcp), .waiting => some { server with
      inFlight := server.inFlight + 1
      acceptor :=
        if server.inFlight ≥ maxConcurrentConnections then .refusing tcp else .reserved tcp }
  | .spawn, .reserved tcp => some { server with
      acceptor := .waiting
      threads := server.threads ++ [⟨tcp, .serving⟩] }
  | .refuse, .refusing _ => some { server with
      acceptor := .waiting
      inFlight := server.inFlight - 1 }
  | .finish position, _ =>
    match server.threads[position]? with
    | some ⟨tcp, .serving⟩ => some { server with
        threads := server.threads.set position ⟨tcp, (serveConnection tcp).stage⟩ }
    | _ => none
  | .release position, _ =>
    match server.threads[position]? with
    | some ⟨tcp, .served⟩ => some { server with
        inFlight := server.inFlight - 1
        threads := server.threads.set position ⟨tcp, .released⟩ }
    | _ => none
  | _, _ => none

/-- The server after the steps of a run. -/
def run (maxConcurrentConnections : Nat) (events : List Event) : Option Server :=
  events.foldlM (step maxConcurrentConnections) Server.start

/-- Everything a step can do. -/
inductive Takes (maxConcurrentConnections : Nat) (server : Server) : Server → Prop where
  | ignores : Takes maxConcurrentConnections server server
  | reserves (tcp : Connection) (waiting : server.acceptor = .waiting)
      (free : server.inFlight < maxConcurrentConnections) :
      Takes maxConcurrentConnections server
        { server with inFlight := server.inFlight + 1, acceptor := .reserved tcp }
  | saturated (tcp : Connection) (waiting : server.acceptor = .waiting)
      (full : maxConcurrentConnections ≤ server.inFlight) :
      Takes maxConcurrentConnections server
        { server with inFlight := server.inFlight + 1, acceptor := .refusing tcp }
  | spawns (tcp : Connection) (reserved : server.acceptor = .reserved tcp) :
      Takes maxConcurrentConnections server
        { server with acceptor := .waiting, threads := server.threads ++ [⟨tcp, .serving⟩] }
  | refuses (tcp : Connection) (refusing : server.acceptor = .refusing tcp) :
      Takes maxConcurrentConnections server
        { server with acceptor := .waiting, inFlight := server.inFlight - 1 }
  | finishes (position : Nat) (tcp : Connection)
      (found : server.threads[position]? = some ⟨tcp, .serving⟩) :
      Takes maxConcurrentConnections server { server with
        threads := server.threads.set position ⟨tcp, (serveConnection tcp).stage⟩ }
  | releases (position : Nat) (tcp : Connection)
      (found : server.threads[position]? = some ⟨tcp, .served⟩) :
      Takes maxConcurrentConnections server { server with
        inFlight := server.inFlight - 1
        threads := server.threads.set position ⟨tcp, .released⟩ }

section

variable {maxConcurrentConnections : Nat} {server next : Server} {event : Event}

theorem takes_of_step (stepped : step maxConcurrentConnections server event = some next) :
    Takes maxConcurrentConnections server next := by
  unfold step at stepped
  split at stepped
  next =>
    cases stepped
    exact .ignores
  next tcp waiting =>
    cases stepped
    split
    next full => exact .saturated tcp waiting full
    next free => exact .reserves tcp waiting (not_le.mp free)
  next tcp reserved =>
    cases stepped
    exact .spawns tcp reserved
  next tcp refusing =>
    cases stepped
    exact .refuses tcp refusing
  next _ position =>
    split at stepped
    next tcp found =>
      cases stepped
      exact .finishes position tcp found
    next => cases stepped
  next _ position =>
    split at stepped
    next tcp found =>
      cases stepped
      exact .releases position tcp found
    next => cases stepped
  next => cases stepped

/-! ## The balance of the counter -/

/-- Every thread that has not counted down yet holds a slot, one that panicked included. -/
def held (server : Server) : Nat := server.threads.countP fun thread => thread.stage ≠ .released

/-- The slot the accept loop has counted and not passed on yet. -/
def Acceptor.counted : Acceptor → Nat
  | .waiting => 0
  | .reserved _ | .refusing _ => 1

/-- The slot the accept loop is going to pass on. -/
def Acceptor.claimed : Acceptor → Nat
  | .reserved _ => 1
  | .waiting | .refusing _ => 0

/-- The stage of a thread agrees with how its connection ended. -/
def Thread.Consistent (thread : Thread) : Prop :=
  thread.stage ≠ .serving → (thread.stage = .panicked ↔ serveConnection thread.tcp = .panicked)

structure Balanced (maxConcurrentConnections : Nat) (server : Server) : Prop where
  counted : server.inFlight = held server + server.acceptor.counted
  bounded : held server + server.acceptor.claimed ≤ maxConcurrentConnections
  consistent : ∀ thread ∈ server.threads, thread.Consistent

theorem balanced_start : Balanced maxConcurrentConnections Server.start :=
  ⟨rfl, Nat.zero_le _, nofun⟩

omit server next in
theorem countP_set_add {threads : List Thread} {position : Nat} {old : Thread}
    (found : threads[position]? = some old) (new : Thread) (counts : Thread → Bool) :
    (threads.set position new).countP counts + (counts old).toNat =
      threads.countP counts + (counts new).toNat := by
  obtain ⟨inside, rfl⟩ := List.getElem?_eq_some_iff.mp found
  rw [countP_set inside]
  have present : (counts threads[position]).toNat ≤ threads.countP counts := by
    cases counted : counts threads[position] with
    | false => exact Nat.zero_le _
    | true => exact countP_pos_iff.mpr ⟨_, getElem_mem inside, counted⟩
  generalize counts threads[position] = before at present ⊢
  generalize counts new = after
  generalize threads.countP counts = total at present ⊢
  cases before <;> cases after <;> simp at present ⊢ <;> omega

theorem consistent_stage (tcp : Connection) :
    Thread.Consistent ⟨tcp, (serveConnection tcp).stage⟩ := by
  intro _
  cases serveConnection tcp <;> simp [ConnectionEnd.stage]

theorem consistent_set {position : Nat} {new : Thread}
    (consistent : ∀ thread ∈ server.threads, thread.Consistent) (fits : new.Consistent) :
    ∀ thread ∈ server.threads.set position new, thread.Consistent := by
  intro thread member
  rcases mem_or_eq_of_mem_set member with inside | rfl
  · exact consistent thread inside
  · exact fits

theorem Balanced.takes (balanced : Balanced maxConcurrentConnections server)
    (takes : Takes maxConcurrentConnections server next) :
    Balanced maxConcurrentConnections next := by
  obtain ⟨counted, bounded, consistent⟩ := balanced
  cases takes with
  | ignores => exact ⟨counted, bounded, consistent⟩
  | reserves tcp waiting free =>
    rw [waiting] at counted
    exact ⟨congrArg (· + 1) counted, by
      rw [counted] at free
      exact free, consistent⟩
  | saturated tcp waiting full =>
    rw [waiting] at counted bounded
    exact ⟨congrArg (· + 1) counted, bounded, consistent⟩
  | spawns tcp reserved =>
    rw [reserved] at counted bounded
    have one : held { server with
        acceptor := .waiting, threads := server.threads ++ [⟨tcp, .serving⟩] } =
          held server + 1 := by
      simp [held]
    refine ⟨counted.trans one.symm, one.trans_le bounded, ?_⟩
    intro thread member
    rcases mem_append.mp member with inside | new
    · exact consistent thread inside
    · rw [mem_singleton.mp new]
      exact fun started => absurd rfl started
  | refuses tcp refusing =>
    rw [refusing] at counted bounded
    exact ⟨by simp [counted, Acceptor.counted, held], bounded, consistent⟩
  | finishes position tcp found =>
    have same : held { server with
        threads := server.threads.set position ⟨tcp, (serveConnection tcp).stage⟩ } =
          held server := by
      have counts := countP_set_add found ⟨tcp, (serveConnection tcp).stage⟩
        fun thread => thread.stage ≠ .released
      cases ended : serveConnection tcp <;> simpa [ended, ConnectionEnd.stage, held] using counts
    exact ⟨counted.trans (congrArg (· + _) same.symm), same ▸ bounded,
      consistent_set consistent (consistent_stage tcp)⟩
  | releases position tcp found =>
    have less : held { server with
        inFlight := server.inFlight - 1
        threads := server.threads.set position ⟨tcp, .released⟩ } + 1 = held server := by
      have counts := countP_set_add found ⟨tcp, .released⟩ fun thread => thread.stage ≠ .released
      simpa [held] using counts
    have served := consistent _ (mem_of_getElem? found)
    refine ⟨?_, ?_, consistent_set consistent ?_⟩
    · change server.inFlight - 1 = _ + server.acceptor.counted
      omega
    · change _ + server.acceptor.claimed ≤ _
      omega
    · intro _
      have returned := served (by simp)
      simpa using returned

theorem balanced_run {events : List Event}
    (runs : run maxConcurrentConnections events = some server) :
    Balanced maxConcurrentConnections server :=
  Option.foldlM_invariant (fun _ _ _ balanced stepped => balanced.takes (takes_of_step stepped))
    balanced_start runs

end

/-! ## Release of every slot -/

/-- The number of connections being served. -/
def beingServed (server : Server) : Nat := server.threads.countP fun thread => thread.stage = .serving

/-- The accept loop is at its head and every thread has terminated. -/
def AtRest (server : Server) : Prop :=
  server.acceptor = .waiting ∧ ∀ thread ∈ server.threads, thread.stage.isTerminated = true

/-- A connection that arrives is going to be served. -/
def ServesNext (maxConcurrentConnections : Nat) (server : Server) : Prop :=
  ∀ tcp, ∃ next, step maxConcurrentConnections server (.incoming (.ok tcp)) = some next ∧
    next.acceptor = .reserved tcp

theorem beingServed_le_held (server : Server) : beingServed server ≤ held server := by
  apply countP_mono_left
  intro thread _ serving
  rw [of_decide_eq_true serving]
  rfl

theorem held_eq_zero_iff {maxConcurrentConnections : Nat} {server : Server}
    (balanced : Balanced maxConcurrentConnections server) (rest : AtRest server) :
    held server = 0 ↔ ∀ thread ∈ server.threads, serveConnection thread.tcp ≠ .panicked := by
  rw [held, countP_eq_zero]
  apply forall₂_congr
  intro thread member
  have terminated := rest.2 thread member
  have consistent := balanced.consistent thread member
  obtain ⟨_, stage⟩ := thread
  cases stage with
  | serving | served => cases terminated
  | released | panicked =>
    have ended := consistent (by simp)
    simpa using ended

/-- In every state of every run, not more connections than allowed are being served, and at
rest every slot is free and the next connection is going to be served, exactly if at rest no
connection has ended in a panic. -/
theorem slots_released_iff (maxConcurrentConnections : Nat)
    (positive : 0 < maxConcurrentConnections) (events : List Event) (server : Server)
    (runs : run maxConcurrentConnections events = some server) :
    beingServed server ≤ maxConcurrentConnections ∧
        (AtRest server →
          server.inFlight = 0 ∧ ServesNext maxConcurrentConnections server) ↔
      (AtRest server →
        ∀ thread ∈ server.threads, serveConnection thread.tcp ≠ .panicked) := by
  have balanced := balanced_run runs
  have within : beingServed server ≤ maxConcurrentConnections :=
    (beingServed_le_held server).trans (le_self_add.trans balanced.bounded)
  rw [and_iff_right within]
  apply forall_congr'
  intro rest
  rw [← held_eq_zero_iff balanced rest]
  have counted := balanced.counted
  rw [rest.1] at counted
  constructor
  · intro free
    exact counted.symm.trans free.1
  · intro none
    have zero := counted.trans none
    refine ⟨zero, ?_⟩
    intro tcp
    have free : ¬ server.inFlight ≥ maxConcurrentConnections := by omega
    exact ⟨{ server with inFlight := server.inFlight + 1, acceptor := .reserved tcp },
      by simp only [step, rest.1, if_neg free], rfl⟩

/-! ## One slot -/

/-- A connection whose request is answered, unless the handler panics on it. -/
def answering (handler : Bytes → Option Bytes) : Connection where
  socketTimeouts := .ok ()
  session := .ok ()
  request := .ok (textBytes "{}")
  rejection _ := none
  handler
  write _ := .ok ()

/-- A connection that is served to its end. -/
def servedEvents (tcp : Connection) : List Event :=
  [.incoming (.ok tcp), .spawn, .finish 0, .release 0]

/-- After a connection that was answered the one slot is free again. -/
theorem slots_released_answered :
    run 1 (servedEvents (answering some)) =
        some ⟨.waiting, 0, [⟨answering some, .released⟩]⟩ ∧
      ServesNext 1 ⟨.waiting, 0, [⟨answering some, .released⟩]⟩ := by
  have runs : run 1 (servedEvents (answering some)) =
      some ⟨.waiting, 0, [⟨answering some, .released⟩]⟩ := rfl
  have released := (slots_released_iff 1 (by decide) (servedEvents (answering some)) _ runs).mpr
    (fun _ thread member => by cases member with
      | head => nofun
      | tail _ member => cases member)
  exact ⟨runs, (released.2 ⟨rfl, fun thread member => by cases member with
    | head => rfl
    | tail _ member => cases member⟩).2⟩

/-- After one panic of the handler every thread has terminated, the counter stands at one, and
the next connection is dropped. -/
theorem slot_lost_panicked :
    let panicking := answering fun _ => none
    run 1 [.incoming (.ok panicking), .spawn, .finish 0] =
        some ⟨.waiting, 1, [⟨panicking, .panicked⟩]⟩ ∧
      run 1 [.incoming (.ok panicking), .spawn, .finish 0, .incoming (.ok (answering some))] =
        some ⟨.refusing (answering some), 2, [⟨panicking, .panicked⟩]⟩ :=
  ⟨rfl, rfl⟩

end Mcps.Proxy.Serve
