import Mcps.Core.Reference
import Mcps.Lib.Triple
import Mcps.Proxy.DurableReplay

/-!
# Durable replay safety

The durable replay cache over a disk that can lose whatever was not flushed.  A disk has
the version of the cache file that is shown now and those that may be shown after a power
failure: a rename puts a version before the older ones, and only the flush of the
directory forgets the older ones.  An action that fails has left the file alone or has
taken effect.

A run is a list of completed operations and stops of the process, at any action of an
operation.  Once a triple was accepted, every version of the file that can come back and
the cache in memory hold it until its time is over.
-/

namespace Mcps.Proxy

open FileRequest

/-! ## The disk -/

/-- The cache file as it is shown, its versions that may survive a power failure, and the
temporary file with whether its contents were flushed. -/
structure Disk where
  file : Option Bytes
  survivors : List (Option Bytes)
  tmp : Option Bytes
  tmpSynced : Bool

namespace Disk

/-- What an action does.  Of a temporary file that was not flushed, anything may survive
the rename. -/
inductive Performs : Disk → FileAction → Disk → Prop where
  | createTmp (disk : Disk) :
      Performs disk .createTmp { disk with tmp := some [], tmpSynced := false }
  | writeTmp (disk : Disk) {held : Bytes} (bytes : Bytes) (shown : disk.tmp = some held) :
      Performs disk (.writeTmp bytes) { disk with tmp := some (held ++ bytes), tmpSynced := false }
  | syncTmp (disk : Disk) : Performs disk .syncTmp { disk with tmpSynced := true }
  | renameTmp (disk : Disk) {kept : Option Bytes}
      (flushed : disk.tmpSynced = true → kept = disk.tmp) :
      Performs disk .renameTmp
        { disk with file := disk.tmp, survivors := kept :: disk.survivors, tmp := none }
  | openDir (disk : Disk) : Performs disk .openDir disk
  | syncDir (disk : Disk) : Performs disk .syncDir { disk with survivors := [disk.file] }

/-- The cache file and its survivors are the same. -/
def SameFile (disk next : Disk) : Prop :=
  next.file = disk.file ∧ next.survivors = disk.survivors

/-- A power failure shows one of the surviving versions, the end of a process changes
nothing. -/
def Stops (disk next : Disk) : Prop :=
  disk.SameFile next ∨
    ∃ kept ∈ disk.survivors, next.file = kept ∧ next.survivors = [kept]

end Disk

/-- What the operating system replies, and what it does to the disk.  The clock is read
between the two times. -/
def FileStep (earliest latest : Int) (disk : Disk) : FileExchange → Disk → Prop
  | ⟨clock, reading⟩, next => earliest ≤ reading ∧ reading ≤ latest ∧ next = disk
  | ⟨pathExists, shown⟩, next => shown = disk.file.isSome ∧ next = disk
  | ⟨readFile, .ok bytes⟩, next => disk.file = some bytes ∧ next = disk
  | ⟨readFile, .error _⟩, next => next = disk
  | ⟨act action, .ok ()⟩, next => disk.Performs action next
  | ⟨act action, .error _⟩, next => disk.SameFile next ∨ disk.Performs action next

/-! ## Runs -/

section

variable [Crates]

/-- The process with its cache, if it is open, and the time of the last event. -/
structure DurableState where
  memory : Option DurableReplayCache
  disk : Disk
  now : Int

inductive DurableAction where
  | opened
  | inserted (key : ReplayKey) (retainUntil : I64)
      (result : Except ReplayCacheError ReplayDecision)
  | pruned
  | stopped

/-- What happened, and the time at which it was over. -/
structure DurableEvent where
  time : Int
  action : DurableAction

/-- How far one of the operations can get before the process stops. -/
inductive Interrupted (memory : Option DurableReplayCache) (time : Int)
    (exchanges : List FileExchange) : Prop where
  | opening (maxClockSkewSecs : Int)
      (follows : (DurableReplayCache.openAt maxClockSkewSecs).Follows exchanges)
  | inserting {cache : DurableReplayCache} (held : memory = some cache)
      (signer audience nonce : String) (expiresAtUnix : Int)
      (follows : (cache.checkAndInsert signer audience nonce expiresAtUnix).Follows exchanges)
  | pruning {cache : DurableReplayCache} (held : memory = some cache) {nowUnix : Int}
      (passed : nowUnix ≤ time) (follows : (cache.prune nowUnix).Follows exchanges)

/-- One event: an operation that completes, or the process stopping inside one. -/
inductive DurableStep : DurableState → DurableEvent → DurableState → Prop where
  | opened {state : DurableState} {time maxClockSkewSecs : Int} {exchanges : List FileExchange}
      {disk : Disk} {result : Except IoError DurableReplayCache} (passed : state.now ≤ time)
      (leads : Leads (FileStep state.now time) state.disk exchanges disk)
      (runs : (DurableReplayCache.openAt maxClockSkewSecs).Runs exchanges result) :
      DurableStep state ⟨time, .opened⟩ ⟨result.toOption, disk, time⟩
  | inserted {state : DurableState} {cache next : DurableReplayCache} {time expiresAtUnix : Int}
      {signer audience nonce : String} {exchanges : List FileExchange} {disk : Disk}
      {result : Except ReplayCacheError ReplayDecision} (passed : state.now ≤ time)
      (held : state.memory = some cache)
      (leads : Leads (FileStep state.now time) state.disk exchanges disk)
      (runs : (cache.checkAndInsert signer audience nonce expiresAtUnix).Runs exchanges
        (result, next)) :
      DurableStep state
        ⟨time, .inserted (signer, audience, nonce) (cache.retainUntil expiresAtUnix) result⟩
        ⟨some next, disk, time⟩
  | pruned {state : DurableState} {cache next : DurableReplayCache} {time nowUnix : Int}
      {exchanges : List FileExchange} {disk : Disk} {result : Except IoError Unit}
      (passed : state.now ≤ time) (notAhead : nowUnix ≤ time) (held : state.memory = some cache)
      (leads : Leads (FileStep state.now time) state.disk exchanges disk)
      (runs : (cache.prune nowUnix).Runs exchanges (result, next)) :
      DurableStep state ⟨time, .pruned⟩ ⟨some next, disk, time⟩
  | stopped {state : DurableState} {time : Int} {exchanges : List FileExchange}
      {disk shown : Disk} (passed : state.now ≤ time)
      (leads : Leads (FileStep state.now time) state.disk exchanges disk)
      (interrupted : Interrupted state.memory time exchanges) (stops : disk.Stops shown) :
      DurableStep state ⟨time, .stopped⟩ ⟨none, shown, time⟩

/-! ## What a version of the file holds -/

/-- The contents, if they can be read, hold the triple until the time. -/
def Shows (key : ReplayKey) (retainUntil : I64) (contents : Option Bytes) : Prop :=
  ∃ bytes, contents = some bytes ∧
    ∀ entries, readEntries bytes = .ok entries → entries.get? key = some retainUntil

/-- The file and every version of it that may come back hold the triple. -/
def Disk.Holds (key : ReplayKey) (retainUntil : I64) (disk : Disk) : Prop :=
  Shows key retainUntil disk.file ∧ ∀ kept ∈ disk.survivors, Shows key retainUntil kept

variable {key : ReplayKey} {retainUntil : I64}

variable {disk : Disk}

theorem Disk.Holds.sameFile {next : Disk} (holds : disk.Holds key retainUntil)
    (same : disk.SameFile next) : next.Holds key retainUntil := by
  rw [Disk.Holds, same.1, same.2]
  exact holds

theorem Disk.Holds.stops {next : Disk} (holds : disk.Holds key retainUntil)
    (stops : disk.Stops next) : next.Holds key retainUntil := by
  rcases stops with same | ⟨kept, member, file, survivors⟩
  · exact holds.sameFile same
  · rw [Disk.Holds, file, survivors]
    exact ⟨holds.2 kept member, by simpa using holds.2 kept member⟩

variable {entries : ReplayEntries}

theorem shows_of_toVec (serde : PrintParse) {bytes : Bytes}
    (written : Crates.toVec (entriesDocument entries) = some bytes)
    (held : entries.get? key = some retainUntil) : Shows key retainUntil (some bytes) := by
  refine ⟨bytes, rfl, ?_⟩
  intro loaded read
  obtain ⟨value, parsed, read⟩ := Except.bind_eq_ok.mp read
  obtain ⟨_, isArray, read⟩ := Except.bind_eq_ok.mp read
  have same : value = ⟨entriesDocument entries, sortedKeys_entriesDocument entries⟩ :=
    serde.inverse (integerNode_entriesDocument entries) written (Option.okOr_eq_ok.mp parsed)
  subst same
  cases Option.okOr_eq_ok.mp isArray
  rw [get?_readRows entries.property read]
  change (entries.get? key).or _ = _
  rw [held]
  rfl

/-! ## Operations keep what is held -/

variable {earliest latest : Int}

omit [Crates] in
theorem Disk.Performs.sameFile {next : Disk} {action : FileAction}
    (performed : disk.Performs action next) (notRename : action ≠ .renameTmp)
    (notSync : action ≠ .syncDir) : disk.SameFile next := by
  cases performed with
  | renameTmp => exact absurd rfl notRename
  | syncDir => exact absurd rfl notSync
  | _ => exact ⟨rfl, rfl⟩

/-- From a stage of writing the file, the rest of the actions lose nothing that is held, and
put the triple on the disk if they all succeed. -/
def WritesFrom (earliest latest : Int) (holding : Prop) (key : ReplayKey) (retainUntil : I64)
    (stage : Disk → Prop) (actions : List FileAction) : Prop :=
  Program.Triple (FileStep earliest latest)
    (fun disk => holding → disk.Holds key retainUntil)
    (fun disk => (holding → disk.Holds key retainUntil) ∧ stage disk)
    (performAll actions)
    fun result disk => holding ∨ result = .ok () → disk.Holds key retainUntil

variable {holding : Prop} {stage nextStage : Disk → Prop} {action : FileAction}
  {actions : List FileAction}

theorem writesFrom_nil (done : ∀ disk, stage disk → disk.Holds key retainUntil) :
    WritesFrom earliest latest holding key retainUntil stage [] := by
  apply Program.Triple.pure
  · exact fun disk before => before.1
  · exact fun disk before _ => done disk before.2

theorem writesFrom_cons
    (others : WritesFrom earliest latest holding key retainUntil nextStage actions)
    (keeps : ∀ disk next, stage disk → disk.Performs action next →
      disk.Holds key retainUntil → next.Holds key retainUntil)
    (advances : ∀ disk next, stage disk → disk.Performs action next → nextStage next) :
    WritesFrom earliest latest holding key retainUntil stage (action :: actions) := by
  apply Program.Triple.request_bind fun (answer : Except String Unit) disk =>
    (holding → disk.Holds key retainUntil) ∧ (answer = .ok () → nextStage disk)
  · exact fun disk before => before.1
  · rintro disk (e | ⟨⟩) next ⟨held, atStage⟩ stepped
    · have kept : holding → next.Holds key retainUntil := by
        intro holds
        rcases stepped with same | performed
        · exact (held holds).sameFile same
        · exact keeps disk next atStage performed (held holds)
      exact ⟨kept, kept, nofun⟩
    · have kept : holding → next.Holds key retainUntil := fun holds =>
        keeps disk next atStage stepped (held holds)
      exact ⟨kept, kept, fun _ => advances disk next atStage stepped⟩
  · rintro (e | ⟨⟩)
    · apply Program.Triple.pure
      · exact fun disk before => before.1
      · rintro disk before (holds | failed)
        · exact before.1 holds
        · cases failed
    · exact Program.Triple.of_before _ (fun disk before => ⟨before.1, before.2 rfl⟩) fun _ => others

theorem writesFrom_cons_of_ne
    (others : WritesFrom earliest latest holding key retainUntil nextStage actions)
    (notRename : action ≠ .renameTmp) (notSync : action ≠ .syncDir)
    (advances : ∀ disk next, stage disk → disk.Performs action next → nextStage next) :
    WritesFrom earliest latest holding key retainUntil stage (action :: actions) :=
  writesFrom_cons others
    (fun _ _ _ performed holds => holds.sameFile (performed.sameFile notRename notSync)) advances

theorem persist_triple (serde : PrintParse) (holding : Prop)
    (held : entries.get? key = some retainUntil) :
    Program.Triple (FileStep earliest latest)
      (fun disk => holding → disk.Holds key retainUntil)
      (fun disk => holding → disk.Holds key retainUntil)
      (persist entries)
      fun result disk => holding ∨ result = .ok () → disk.Holds key retainUntil := by
  rw [persist]
  cases written : Crates.toVec (entriesDocument entries) with
  | none =>
    apply Program.Triple.pure
    · exact fun disk before => before
    · rintro disk before (holds | failed)
      · exact before holds
      · cases failed
  | some bytes =>
    have shows : Shows key retainUntil (some bytes) := shows_of_toVec serde written held
    have flushing : WritesFrom earliest latest holding key retainUntil
        (fun disk => disk.file = some bytes) [.syncDir] := by
      apply writesFrom_cons (writesFrom_nil fun disk holds => holds)
      · rintro disk _ shown ⟨⟩ holds
        exact ⟨holds.1, by simpa using holds.1⟩
      · rintro disk _ shown ⟨⟩
        rw [shown]
        exact ⟨shows, by simpa using shows⟩
    have opening : WritesFrom earliest latest holding key retainUntil
        (fun disk => disk.file = some bytes) [.openDir, .syncDir] := by
      refine writesFrom_cons_of_ne flushing (by nofun) (by nofun) ?_
      rintro disk _ shown ⟨⟩
      exact shown
    have moving : WritesFrom earliest latest holding key retainUntil
        (fun disk => disk.tmp = some bytes ∧ disk.tmpSynced = true)
        [.renameTmp, .openDir, .syncDir] := by
      apply writesFrom_cons opening
      · intro disk next ⟨shown, synced⟩ performed holds
        cases performed with
        | renameTmp flushed =>
          have kept := (flushed synced).trans shown
          refine ⟨shown ▸ shows, ?_⟩
          exact List.forall_mem_cons.mpr ⟨kept ▸ shows, holds.2⟩
      · rintro disk _ ⟨shown, synced⟩ ⟨⟩
        exact shown
    have syncing : WritesFrom earliest latest holding key retainUntil
        (fun disk => disk.tmp = some bytes) [.syncTmp, .renameTmp, .openDir, .syncDir] := by
      refine writesFrom_cons_of_ne moving (by nofun) (by nofun) ?_
      rintro disk _ shown ⟨⟩
      exact ⟨shown, rfl⟩
    have writing : WritesFrom earliest latest holding key retainUntil
        (fun disk => disk.tmp = some [])
        [.writeTmp bytes, .syncTmp, .renameTmp, .openDir, .syncDir] := by
      refine writesFrom_cons_of_ne syncing (by nofun) (by nofun) ?_
      intro disk next empty performed
      cases performed with
      | writeTmp _ shown =>
        cases empty.symm.trans shown
        rfl
    have creating : WritesFrom earliest latest holding key retainUntil (fun _ => True)
        [.createTmp, .writeTmp bytes, .syncTmp, .renameTmp, .openDir, .syncDir] := by
      refine writesFrom_cons_of_ne writing (by nofun) (by nofun) ?_
      rintro disk _ _ ⟨⟩
      rfl
    exact Program.Triple.of_before _ (fun disk before => ⟨before, trivial⟩) fun _ => creating

namespace DurableReplayCache

variable {cache : DurableReplayCache}

/-- The triple is on the disk and in the cache. -/
def HeldBy (key : ReplayKey) (retainUntil : I64) (cache : DurableReplayCache) (disk : Disk) :
    Prop :=
  disk.Holds key retainUntil ∧ cache.entries.get? key = some retainUntil

theorem persist_keeps (serde : PrintParse) {entries : ReplayEntries}
    (held : entries.get? key = some retainUntil) :
    Program.Triple (FileStep earliest latest) (Disk.Holds key retainUntil)
      (Disk.Holds key retainUntil) (persist entries) fun _ => Disk.Holds key retainUntil := by
  intro disk exchanges last holds leads
  obtain ⟨follows, runs⟩ := persist_triple serde True held (fun _ => holds) leads
  exact ⟨fun made => follows made trivial, fun result made => runs result made (.inl trivial)⟩

theorem prune_triple (serde : PrintParse) {nowUnix : Int}
    (held : cache.entries.get? key = some retainUntil) (current : nowUnix ≤ retainUntil.val) :
    Program.Triple (FileStep earliest latest) (Disk.Holds key retainUntil)
      (Disk.Holds key retainUntil) (cache.prune nowUnix)
      fun out => out.2.HeldBy key retainUntil := by
  have kept := get?_retainFrom held current
  apply Program.Triple.bind _ (persist_keeps serde kept)
  intro result
  apply Program.Triple.pure
  · exact fun disk holds => holds
  · exact fun disk holds => ⟨holds, kept⟩

theorem pruneInline_triple (held : cache.entries.get? key = some retainUntil)
    (current : latest ≤ retainUntil.val) :
    Program.Triple (FileStep earliest latest) (Disk.Holds key retainUntil)
      (Disk.Holds key retainUntil) cache.pruneInline
      fun next => next.HeldBy key retainUntil := by
  rw [pruneInline]
  split
  next due =>
    apply Program.Triple.request_bind fun (reading : Int) disk =>
      disk.Holds key retainUntil ∧ reading ≤ latest
    · exact fun disk holds => holds
    · rintro disk reading _ holds ⟨_, notAhead, rfl⟩
      exact ⟨holds, holds, notAhead⟩
    · intro reading
      apply Program.Triple.pure
      · exact fun disk before => before.1
      · exact fun disk before =>
          ⟨before.1, get?_retainFrom held (before.2.trans current)⟩
  next =>
    apply Program.Triple.pure
    · exact fun disk holds => holds
    · exact fun disk holds => ⟨holds, held⟩

variable {signer audience nonce : String} {expiresAtUnix : Int}

theorem checkAndInsert_triple (serde : PrintParse)
    (held : cache.entries.get? key = some retainUntil) (current : latest ≤ retainUntil.val) :
    Program.Triple (FileStep earliest latest) (Disk.Holds key retainUntil)
      (Disk.Holds key retainUntil) (cache.checkAndInsert signer audience nonce expiresAtUnix)
      fun out => out.2.HeldBy key retainUntil := by
  rw [checkAndInsert]
  split
  next =>
    apply Program.Triple.pure
    · exact fun disk holds => holds
    · exact fun disk holds => ⟨holds, held⟩
  next absent =>
    have different : key ≠ (signer, audience, nonce) := by
      rintro rfl
      exact absent (by rw [held]; rfl)
    apply Program.Triple.bind _ (pruneInline_triple held current)
    intro pruned
    apply Program.Triple.of_before (Disk.Holds key retainUntil) fun _ before => before.1
    rintro ⟨_, _, still⟩
    split
    next =>
      apply Program.Triple.pure
      · exact fun disk holds => holds
      · exact fun disk holds => ⟨holds, still⟩
    next =>
      have admitted : (pruned.entries.insert (signer, audience, nonce)
          (pruned.retainUntil expiresAtUnix)).get? key = some retainUntil := by
        rw [Assoc.SortedMap.get?_insert_ne different, still]
      apply Program.Triple.bind _ (persist_keeps serde admitted)
      rintro (e | ⟨⟩)
      · apply Program.Triple.pure
        · exact fun disk holds => holds
        · intro disk holds
          exact ⟨holds, (Assoc.SortedMap.get?_remove_ne different).trans admitted⟩
      · apply Program.Triple.pure
        · exact fun disk holds => holds
        · exact fun disk holds => ⟨holds, admitted⟩

variable {exchanges : List FileExchange} {next : DurableReplayCache}

omit [Crates] in
theorem maxClockSkewSecs_pruneInline (runs : cache.pruneInline.Runs exchanges next) :
    next.maxClockSkewSecs = cache.maxClockSkewSecs := by
  rcases runs_pruneInline.mp runs with ⟨_, _, _, rfl⟩ | ⟨_, _, rfl⟩
  · rfl
  · rfl

theorem runs_checkAndInsert_fresh
    (runs : (cache.checkAndInsert signer audience nonce expiresAtUnix).Runs exchanges
      (.ok .fresh, next)) :
    cache.entries.get? (signer, audience, nonce) = none ∧
      next.entries.get? (signer, audience, nonce) = some (cache.retainUntil expiresAtUnix) ∧
      ∃ first rest, exchanges = first ++ rest ∧ (persist next.entries).Runs rest (.ok ()) := by
  rw [checkAndInsert] at runs
  split at runs
  next => cases runs.2
  next absent =>
    obtain ⟨_, first, _, rfl, pruning, runs⟩ := Program.runs_bind.mp runs
    have sameSkew := maxClockSkewSecs_pruneInline pruning
    split at runs
    next => cases runs.2
    next =>
      obtain ⟨result, written, _, rfl, persisted, runs⟩ := Program.runs_bind.mp runs
      cases result with
      | error e => cases runs.2
      | ok done =>
        obtain ⟨rfl, same⟩ := runs
        cases same
        refine ⟨by simpa using absent, ?_, first, written, by simp, persisted⟩
        simp [retainUntil, sameSkew]

theorem heldBy_of_fresh (serde : PrintParse) {disk last : Disk}
    (runs : (cache.checkAndInsert signer audience nonce expiresAtUnix).Runs exchanges
      (.ok .fresh, next)) (leads : Leads (FileStep earliest latest) disk exchanges last) :
    next.HeldBy (signer, audience, nonce) (cache.retainUntil expiresAtUnix) last := by
  obtain ⟨_, held, _, _, rfl, persisted⟩ := runs_checkAndInsert_fresh runs
  obtain ⟨_, _, leads⟩ := leads.of_append
  have written := (persist_triple serde False held (False.elim ·) leads).2 (.ok ()) persisted
  exact ⟨written (.inr rfl), held⟩

theorem load_triple :
    Program.Triple (FileStep earliest latest) (Disk.Holds key retainUntil)
      (Disk.Holds key retainUntil) load
      fun result disk => disk.Holds key retainUntil ∧
        ∀ entries, result = .ok entries → entries.get? key = some retainUntil := by
  apply Program.Triple.request_bind fun (contents : Except String Bytes) disk =>
    disk.Holds key retainUntil ∧ ∀ bytes, contents = .ok bytes → disk.file = some bytes
  · exact fun disk holds => holds
  · rintro disk (e | bytes) next holds stepped
    · cases stepped
      exact ⟨holds, holds, nofun⟩
    · obtain ⟨file, rfl⟩ := stepped
      refine ⟨holds, holds, ?_⟩
      rintro _ ⟨⟩
      exact file
  · rintro (e | bytes)
    · apply Program.Triple.pure
      · exact fun disk before => before.1
      · exact fun disk before => ⟨before.1, nofun⟩
    · apply Program.Triple.pure
      · exact fun disk before => before.1
      · intro disk before
        refine ⟨before.1, ?_⟩
        intro entries read
        obtain ⟨_, file, shows⟩ := before.1.1
        cases (before.2 bytes rfl).symm.trans file
        exact shows entries read

theorem openAt_triple {maxClockSkewSecs : Int} :
    Program.Triple (FileStep earliest latest) (Disk.Holds key retainUntil)
      (Disk.Holds key retainUntil) (openAt maxClockSkewSecs)
      fun result disk => disk.Holds key retainUntil ∧
        ∀ cache, result.toOption = some cache → cache.entries.get? key = some retainUntil := by
  apply Program.Triple.request_bind fun (shown : Bool) disk =>
    disk.Holds key retainUntil ∧ shown = true
  · exact fun disk holds => holds
  · rintro disk _ _ holds ⟨rfl, rfl⟩
    obtain ⟨_, file, _⟩ := holds.1
    exact ⟨holds, holds, by rw [file]; rfl⟩
  · intro shown
    apply Program.Triple.of_before (Disk.Holds key retainUntil) fun _ before => before.1
    rintro ⟨_, _, rfl⟩
    apply Program.Triple.bind fun (result : Except IoError ReplayEntries) disk =>
      disk.Holds key retainUntil ∧
        ∀ entries, result = .ok entries → entries.get? key = some retainUntil
    · exact load_triple
    · intro result
      apply Program.Triple.pure
      · exact fun disk before => before.1
      · intro disk before
        refine ⟨before.1, ?_⟩
        intro cache opened
        cases result with
        | error e => cases opened
        | ok entries =>
          cases opened
          exact before.2 entries rfl

end DurableReplayCache

/-! ## Writing that succeeds -/

/-- The exchanges of writing a version of the file without a failure. -/
def writeExchanges (bytes : Bytes) : List FileExchange :=
  (writeActions bytes).map fun action => ⟨act action, .ok ()⟩

omit [Crates] in
theorem runs_performAll (actions : List FileAction) :
    (performAll actions).Runs (actions.map fun action => ⟨act action, .ok ()⟩) (.ok ()) := by
  induction actions with
  | nil => exact ⟨rfl, rfl⟩
  | cons action rest ih => exact ⟨.ok (), _, rfl, ih⟩

/-- A new triple is accepted when there is room for it and writing succeeds. -/
theorem DurableReplayCache.runs_checkAndInsert_of_room {cache : DurableReplayCache}
    {signer audience nonce : String} {expiresAtUnix : Int} {bytes : Bytes}
    (absent : cache.entries.get? (signer, audience, nonce) = none)
    (notDue : cache.insertsSincePrune + 1 < pruneEveryNInserts)
    (room : cache.entries.size < cache.maxEntries)
    (written : Crates.toVec (entriesDocument (cache.entries.insert (signer, audience, nonce)
      (cache.retainUntil expiresAtUnix))) = some bytes) :
    (cache.checkAndInsert signer audience nonce expiresAtUnix).Runs (writeExchanges bytes)
      (.ok .fresh, { cache with
        insertsSincePrune := cache.insertsSincePrune + 1
        entries := cache.entries.insert (signer, audience, nonce)
          (cache.retainUntil expiresAtUnix) }) := by
  have counted : min (cache.insertsSincePrune + 1) u64Max = cache.insertsSincePrune + 1 := by
    simp only [pruneEveryNInserts, u64Max] at notDue ⊢
    omega
  have persisted : (persist (cache.entries.insert (signer, audience, nonce)
      (cache.retainUntil expiresAtUnix))).Runs (writeExchanges bytes) (.ok ()) := by
    rw [persist, written]
    exact runs_performAll _
  rw [checkAndInsert, if_neg (by simp [absent]), pruneInline, counted, if_neg (by omega)]
  refine Program.runs_bind.mpr ⟨_, [], writeExchanges bytes, rfl, ⟨rfl, rfl⟩, ?_⟩
  rw [if_neg (by simpa using room)]
  exact Program.runs_bind.mpr ⟨.ok (), writeExchanges bytes, [], (List.append_nil _).symm,
    persisted, rfl, rfl⟩

theorem DurableReplayCache.runs_checkAndInsert_of_held {cache : DurableReplayCache}
    {signer audience nonce : String} {expiresAtUnix : Int} {retainUntil : I64}
    (held : cache.entries.get? (signer, audience, nonce) = some retainUntil) :
    (cache.checkAndInsert signer audience nonce expiresAtUnix).Runs [] (.ok .replay, cache) := by
  rw [checkAndInsert, if_pos (by simp [held])]
  exact ⟨rfl, rfl⟩

omit [Crates] in
theorem leads_writeExchanges {earliest latest : Int} (disk : Disk) (bytes : Bytes) :
    Leads (FileStep earliest latest) disk (writeExchanges bytes)
      ⟨some bytes, [some bytes], none, true⟩ :=
  ⟨_, .createTmp _, _, .writeTmp _ bytes rfl, _, .syncTmp _, _, .renameTmp _ fun _ => rfl,
    _, .openDir _, _, .syncDir _, rfl⟩

/-! ## Replay safety -/

/-- The time of the triple is over, or the disk and the cache hold it. -/
def DurableState.Retains (key : ReplayKey) (retainUntil : I64) (state : DurableState) : Prop :=
  retainUntil.val < state.now ∨
    state.disk.Holds key retainUntil ∧
      ∀ cache, state.memory = some cache → cache.entries.get? key = some retainUntil

theorem Interrupted.holds (serde : PrintParse) {memory : Option DurableReplayCache} {time : Int}
    {exchanges : List FileExchange} {last : Disk} (interrupted : Interrupted memory time exchanges)
    (current : time ≤ retainUntil.val) (holds : disk.Holds key retainUntil)
    (inMemory : ∀ cache, memory = some cache → cache.entries.get? key = some retainUntil)
    (leads : Leads (FileStep earliest time) disk exchanges last) : last.Holds key retainUntil := by
  cases interrupted with
  | opening maxClockSkewSecs follows =>
    exact (DurableReplayCache.openAt_triple holds leads).1 follows
  | inserting held signer audience nonce expiresAtUnix follows =>
    exact (DurableReplayCache.checkAndInsert_triple serde (inMemory _ held) current holds
      leads).1 follows
  | pruning held passed follows =>
    exact (DurableReplayCache.prune_triple serde (inMemory _ held) (passed.trans current) holds
      leads).1 follows

variable {state next : DurableState} {event : DurableEvent}

theorem DurableStep.retains (serde : PrintParse) (stepped : DurableStep state event next)
    (retains : state.Retains key retainUntil) : next.Retains key retainUntil := by
  by_cases current : event.time ≤ retainUntil.val
  · have passed : state.now ≤ event.time := by
      cases stepped <;> assumption
    have held := retains.resolve_left (by omega)
    right
    cases stepped with
    | opened _ leads runs =>
      have opened := (DurableReplayCache.openAt_triple held.1 leads).2 _ runs
      refine ⟨opened.1, ?_⟩
      intro cache found
      exact opened.2 cache found
    | inserted _ inMemory leads runs =>
      have inserted := (DurableReplayCache.checkAndInsert_triple serde (held.2 _ inMemory)
        current held.1 leads).2 _ runs
      exact ⟨inserted.1, by rintro _ ⟨⟩; exact inserted.2⟩
    | pruned _ notAhead inMemory leads runs =>
      have pruned := (DurableReplayCache.prune_triple serde (held.2 _ inMemory)
        (notAhead.trans current) held.1 leads).2 _ runs
      exact ⟨pruned.1, by rintro _ ⟨⟩; exact pruned.2⟩
    | stopped _ leads interrupted stops =>
      exact ⟨(interrupted.holds serde current held.1 held.2 leads).stops stops, nofun⟩
  · left
    cases stepped <;> exact not_le.mp current

/-- The event accepted the triple as fresh and keeps it until the time. -/
def DurableEvent.Accepts (key : ReplayKey) (retainUntil : I64) (event : DurableEvent) : Prop :=
  event.action = .inserted key retainUntil (.ok .fresh)

theorem DurableStep.retains_of_accepts (serde : PrintParse) (stepped : DurableStep state event next)
    (accepts : event.Accepts key retainUntil) : next.Retains key retainUntil := by
  cases stepped with
  | inserted _ _ leads runs =>
    cases accepts
    have held := DurableReplayCache.heldBy_of_fresh serde runs leads
    exact .inr ⟨held.1, by rintro _ ⟨⟩; exact held.2⟩
  | _ => cases accepts

theorem DurableStep.lt_of_accepts (stepped : DurableStep state event next)
    (retains : state.Retains key retainUntil) {renewed : I64}
    (accepts : event.Accepts key renewed) : retainUntil.val < event.time := by
  cases stepped with
  | inserted passed inMemory leads runs =>
    cases accepts
    rcases retains with ended | ⟨_, held⟩
    · exact ended.trans_le passed
    · have absent := (DurableReplayCache.runs_checkAndInsert_fresh runs).1
      cases absent.symm.trans (held _ inMemory)
  | _ => cases accepts

/-- In every run over one file, with failures of any action and stops at any point, a triple
that was accepted is accepted again only after the time it is kept until. -/
theorem checkAndInsert_durable_replay_safe (serde : PrintParse) {initial : DurableState}
    {log : List DurableEvent} (run : Admits DurableStep initial log) :
    log.Pairwise fun earlier later => ∀ key retainUntil renewed,
      earlier.Accepts key retainUntil → later.Accepts key renewed →
        retainUntil.val < later.time := by
  apply @Admits.pairwise_of_bar _ _ DurableStep initial log fun event state =>
    ∀ key retainUntil, event.Accepts key retainUntil → state.Retains key retainUntil
  · intro state event next stepped key retainUntil accepts
    exact stepped.retains_of_accepts serde accepts
  · intro earlier state event next bar stepped key retainUntil accepts
    exact stepped.retains serde (bar key retainUntil accepts)
  · intro earlier state event next bar stepped key retainUntil renewed accepted accepts
    exact stepped.lt_of_accepts (bar key retainUntil accepted) accepts
  · exact run

end

/-! ## A power failure between two flushes -/

/-- The cache of a process that found no file. -/
def openedCache : DurableReplayCache := ⟨300, Assoc.SortedMap.empty, 0, maxEntries⟩

/-- What the file holds of an accepted triple, and what it would hold with a second one. -/
def acceptedEntries : ReplayEntries :=
  Assoc.SortedMap.empty.insert ("did:example:agent-1", "did:example:server-1", "nonce-1")
    (openedCache.retainUntil 1000)

def bothEntries : ReplayEntries :=
  acceptedEntries.insert ("did:example:agent-1", "did:example:server-1", "nonce-2")
    (openedCache.retainUntil 1010)

/-- The cache after the triple was accepted, and the one of a process that found the file. -/
def acceptedCache : DurableReplayCache := ⟨300, acceptedEntries, 1, maxEntries⟩

def reopenedCache : DurableReplayCache := ⟨300, acceptedEntries, 0, maxEntries⟩

def acceptedText : Bytes :=
  textBytes ("[\x7b\"audience\":\"did:example:server-1\",\"nonce\":\"nonce-1\"," ++
    "\"retain_until\":1300,\"signer\":\"did:example:agent-1\"\x7d]")

def bothText : Bytes :=
  textBytes ("[\x7b\"audience\":\"did:example:server-1\",\"nonce\":\"nonce-1\"," ++
    "\"retain_until\":1300,\"signer\":\"did:example:agent-1\"\x7d," ++
    "\x7b\"audience\":\"did:example:server-1\",\"nonce\":\"nonce-2\"," ++
    "\"retain_until\":1310,\"signer\":\"did:example:agent-1\"\x7d]")

@[reducible] def fileCrates : Crates :=
  documentCrates vectorCrates
    [(acceptedText, ⟨entriesDocument acceptedEntries, sortedKeys_entriesDocument _⟩),
      (bothText, ⟨entriesDocument bothEntries, sortedKeys_entriesDocument _⟩)]

/-- A process starts without a file. -/
def emptyDisk : Disk := ⟨none, [none], none, false⟩

/-- A triple is accepted, the power fails while a second one is written, and the first one
comes again. -/
def powerFailureLog : List DurableEvent :=
  [⟨100, .opened⟩,
    ⟨101, .inserted ("did:example:agent-1", "did:example:server-1", "nonce-1")
      (openedCache.retainUntil 1000) (.ok .fresh)⟩,
    ⟨102, .stopped⟩, ⟨103, .opened⟩,
    ⟨104, .inserted ("did:example:agent-1", "did:example:server-1", "nonce-1")
      (openedCache.retainUntil 1000) (.ok .replay)⟩]

theorem admits_powerFailureLog :
    letI := fileCrates
    Admits DurableStep ⟨none, emptyDisk, 0⟩ powerFailureLog := by
  let crates := fileCrates
  have accepts := @DurableReplayCache.runs_checkAndInsert_of_room crates openedCache
    "did:example:agent-1" "did:example:server-1" "nonce-1" 1000 acceptedText rfl
    (by decide) (by decide) (by decide +kernel)
  have writesBoth := @DurableReplayCache.runs_checkAndInsert_of_room crates acceptedCache
    "did:example:agent-1" "did:example:server-1" "nonce-2" 1010 bothText (by decide +kernel)
    (by decide) (by decide +kernel) (by decide +kernel)
  have reads : readEntries acceptedText = .ok acceptedEntries := by decide +kernel
  have refuses := @DurableReplayCache.runs_checkAndInsert_of_held crates reopenedCache
    "did:example:agent-1" "did:example:server-1" "nonce-1" 1000 (openedCache.retainUntil 1000)
    (by decide +kernel)
  refine ⟨⟨some openedCache, emptyDisk, 100⟩, ?_,
    ⟨some acceptedCache, ⟨some acceptedText, [some acceptedText], none, true⟩, 101⟩, ?_,
    ⟨none, ⟨some acceptedText, [some acceptedText], none, false⟩, 102⟩, ?_,
    ⟨some reopenedCache, ⟨some acceptedText, [some acceptedText], none, false⟩, 103⟩, ?_,
    ⟨some reopenedCache, ⟨some acceptedText, [some acceptedText], none, false⟩, 104⟩, ?_, trivial⟩
  · exact @DurableStep.opened crates _ 100 300 [⟨pathExists, false⟩] _ (.ok openedCache)
      (by decide) ⟨_, ⟨rfl, rfl⟩, rfl⟩ ⟨false, [], rfl, rfl, rfl⟩
  · exact .inserted (by decide) rfl (leads_writeExchanges _ _) accepts
  · exact @DurableStep.stopped crates _ 102 ((writeExchanges bothText).take 4)
      ⟨some bothText, [some bothText, some acceptedText], none, true⟩ _ (by decide)
      ⟨_, .createTmp _, _, .writeTmp _ bothText rfl, _, .syncTmp _,
        _, .renameTmp _ fun _ => rfl, rfl⟩
      (.inserting rfl _ _ _ _ (writesBoth.follows_of_append ((writeExchanges bothText).drop 4)))
      (.inr ⟨some acceptedText, by simp, rfl, rfl⟩)
  · have opens : (DurableReplayCache.openAt 300).Runs
        [⟨pathExists, true⟩, ⟨readFile, .ok acceptedText⟩] (.ok reopenedCache) := by
      refine ⟨true, _, rfl, .ok acceptedText, [], rfl, rfl, ?_⟩
      rw [reads]
      rfl
    exact @DurableStep.opened crates _ 103 300 [⟨pathExists, true⟩, ⟨readFile, .ok acceptedText⟩]
      _ (.ok reopenedCache) (by decide) ⟨_, ⟨rfl, rfl⟩, _, ⟨rfl, rfl⟩, rfl⟩ opens
  · exact @DurableStep.inserted crates _ reopenedCache _ 104 1000 _ _ _ [] _ _ (by decide) rfl rfl
      refuses

theorem checkAndInsert_durable_replay_safe_power_failure :
    letI := fileCrates
    Admits DurableStep ⟨none, emptyDisk, 0⟩ powerFailureLog ∧
      powerFailureLog.Pairwise fun earlier later => ∀ key retainUntil renewed,
        earlier.Accepts key retainUntil → later.Accepts key renewed →
          retainUntil.val < later.time := by
  let crates := fileCrates
  have serde : PrintParse := printParse_documentCrates vectorCrates (by decide +kernel)
  exact ⟨admits_powerFailureLog, checkAndInsert_durable_replay_safe serde admits_powerFailureLog⟩

end Mcps.Proxy
