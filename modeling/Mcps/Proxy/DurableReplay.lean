import Mcps.Core.CanonicalDomain
import Mcps.Core.Pipeline
import Mcps.Lib.Program

/-!
# The durable replay cache

A replay cache that one process keeps in memory and in one file.  Every change is written
to a temporary file, flushed, renamed over the file and flushed again in the directory, so
that the file is always a whole version of the cache.  Each of these actions can fail; the
cache then takes the new entry out of memory again and reports that it is unavailable.

The process asks the operating system for the actions one at a time, and the replies
decide how it goes on.
-/

namespace Mcps.Proxy

open Assoc

/-! ## Entries -/

/-- The triple of signer, audience and nonce. -/
abbrev ReplayKey := String × String × String

abbrev replayKeyLt : ReplayKey → ReplayKey → Prop :=
  Prod.Lex codePointLt (Prod.Lex codePointLt codePointLt)

instance replayKeyOrder : IsStrictTotalOrder ReplayKey replayKeyLt := inferInstance

/-- The accepted triples with the time they are kept until. -/
abbrev ReplayEntries := Assoc.SortedMap replayKeyLt I64

/-- Drop what was kept until before the time. -/
def retainFrom (now : Int) (entries : ReplayEntries) : ReplayEntries :=
  entries.retain fun entry => now ≤ entry.2.val

theorem get?_retainFrom {now : Int} {entries : ReplayEntries} {key : ReplayKey} {retainUntil : I64}
    (held : entries.get? key = some retainUntil) (kept : now ≤ retainUntil.val) :
    (retainFrom now entries).get? key = some retainUntil := by
  simp [retainFrom, Assoc.SortedMap.get?_retain, held, kept]

/-! ## Requests to the operating system -/

/-- One action of writing a new version of the file. -/
inductive FileAction where
  | createTmp
  | writeTmp (bytes : Bytes)
  | syncTmp
  | renameTmp
  | openDir
  | syncDir
  deriving DecidableEq

/-- What the cache asks for: the time, whether its file exists, the contents of the file,
and the actions of writing it. -/
inductive FileRequest where
  | clock
  | pathExists
  | readFile
  | act (action : FileAction)
  deriving DecidableEq

@[reducible] def FileRequest.Reply : FileRequest → Type
  | clock => Int
  | pathExists => Bool
  | readFile => Except String Bytes
  | act _ => Except String Unit

abbrev Files := Program FileRequest.Reply

abbrev FileExchange := Sigma FileRequest.Reply

/-- An `io::Error`: one of the operating system by its text, one of the JSON crate, or one
about the contents of the file. -/
inductive IoError where
  | os (display : String)
  | json
  | invalidData (message : String)
  deriving DecidableEq, Repr

def IoError.display : IoError → String
  | os text | invalidData text => text
  | json => "JSON error"

open FileRequest

/-- Actions one after the other, up to the first that fails. -/
def performAll : List FileAction → Files (Except IoError Unit)
  | [] => return .ok ()
  | action :: rest => do
    match ← Program.request (act action) with
    | .error e => return .error (.os e)
    | .ok () => performAll rest

/-- The actions of writing a version of the file. -/
def writeActions (bytes : Bytes) : List FileAction :=
  [.createTmp, .writeTmp bytes, .syncTmp, .renameTmp, .openDir, .syncDir]

/-! ## The file -/

/-- The row of the file for one entry. -/
def entryDocument (entry : ReplayKey × I64) : Value :=
  .object [("audience", .string entry.1.2.1), ("nonce", .string entry.1.2.2),
    ("retain_until", .number (numberOfInteger entry.2.val)), ("signer", .string entry.1.1)]

def entriesDocument (entries : ReplayEntries) : Value := .array (entries.val.map entryDocument)

theorem Number.asI64_mem {number : Number} {value : Int} (read : number.asI64 = some value) :
    i64Min ≤ value ∧ value ≤ i64Max := by
  cases number with
  | posInt held bounded =>
    simp only [Number.asI64, Option.ite_none_right_eq_some, Option.some.injEq] at read
    simp only [i64Min, i64Max]
    omega
  | negInt held bounded =>
    simp only [Number.asI64, Option.some.injEq] at read
    simp only [i64Min, i64Max]
    omega
  | float bits => simp [Number.asI64] at read

/-- `Value::as_i64`. -/
def asI64 : Value → Option I64
  | .number number =>
    match read : number.asI64 with
    | some value => some ⟨value, Number.asI64_mem read⟩
    | none => none
  | _ => none

/-- `Value::as_array`. -/
def asArray : Value → Option (List Value)
  | .array items => some items
  | _ => none

def readEntry (entry : Value) : Option (ReplayKey × I64) := do
  let signer ← (entry.get "signer").bind Json.asStr
  let audience ← (entry.get "audience").bind Json.asStr
  let nonce ← (entry.get "nonce").bind Json.asStr
  let retainUntil ← (entry.get "retain_until").bind asI64
  return ((signer, audience, nonce), retainUntil)

def readRows : List Value → ReplayEntries → Except IoError ReplayEntries
  | [], entries => .ok entries
  | row :: rest, entries => do
    let (key, retainUntil) ← (readEntry row).okOr (.invalidData "malformed replay cache entry")
    readRows rest (entries.insert key retainUntil)

/-! ## Reading back what was written -/

theorem numberOfInteger_asI64 (value : I64) :
    (numberOfInteger value.val).asI64 = some value.val := by
  obtain ⟨value, above, below⟩ := value
  simp only [i64Min, i64Max] at above below
  dsimp only
  unfold numberOfInteger
  split
  next nonneg => rw [Number.asI64, if_pos (by omega), Int.toNat_of_nonneg nonneg.1]
  next negative => rw [dif_pos (by omega), Number.asI64]

theorem asI64_numberOfInteger (value : I64) :
    asI64 (.number (numberOfInteger value.val)) = some value := by
  rw [asI64]
  split
  next found same => cases (numberOfInteger_asI64 value).symm.trans same; rfl
  next absent => cases (numberOfInteger_asI64 value).symm.trans absent

@[simp] theorem readEntry_entryDocument (entry : ReplayKey × I64) :
    readEntry (entryDocument entry) = some entry := by
  simp [readEntry, entryDocument, find?, Json.asStr, asI64_numberOfInteger]

theorem get?_readRows {key : ReplayKey} {rows : List (ReplayKey × I64)} {entries loaded : ReplayEntries}
    (ordered : Assoc.Ordered replayKeyLt rows)
    (read : readRows (rows.map entryDocument) entries = .ok loaded) :
    loaded.get? key = (find? key rows).or (entries.get? key) := by
  induction rows generalizing entries with
  | nil =>
    cases read
    rfl
  | cons row rest ih =>
    obtain ⟨candidate, _⟩ := row
    obtain ⟨below, ordered⟩ := List.pairwise_cons.mp ordered
    rw [List.map_cons, readRows, readEntry_entryDocument] at read
    have later := ih ordered read
    by_cases same : candidate = key
    · subst same
      have absent : find? candidate rest = none :=
        find?_eq_none_iff.mpr fun entry member => (ne_of_irrefl (below entry member)).symm
      rw [later, absent, find?_cons_self, Assoc.SortedMap.get?_insert_self]
      rfl
    · rw [later, find?_cons_ne same, Assoc.SortedMap.get?_insert_ne (Ne.symm same)]

theorem sortedKeys_entriesDocument (entries : ReplayEntries) :
    (entriesDocument entries).SortedKeys := by
  apply Json.sortedKeys_array.mpr
  intro row member
  obtain ⟨_, _, rfl⟩ := List.mem_map.mp member
  simp [entryDocument, Assoc.Ordered]
  decide

theorem integerNode_entriesDocument (entries : ReplayEntries) :
    (entriesDocument entries).Everywhere IntegerNode := by
  apply Json.everywhere_array.mpr
  refine ⟨trivial, ?_⟩
  intro row member
  obtain ⟨entry, _, rfl⟩ := List.mem_map.mp member
  have integer : (numberOfInteger entry.2.val).integer?.isSome := by
    have read := numberOfInteger_asI64 entry.2
    cases written : numberOfInteger entry.2.val with
    | posInt _ _ | negInt _ _ => rfl
    | float bits => simp [written, Number.asI64] at read
  simp [entryDocument, Json.Everywhere, IntegerNode, integer]

section

variable [Crates]

/-- What the contents of a file are read as. -/
def readEntries (bytes : Bytes) : Except IoError ReplayEntries := do
  let value ← (Crates.fromSlice bytes).okOr .json
  let rows ← (asArray value.val).okOr (.invalidData "replay cache is not a JSON array")
  readRows rows Assoc.SortedMap.empty

def load : Files (Except IoError ReplayEntries) := do
  match ← Program.request readFile with
  | .error e => return .error (.os e)
  | .ok bytes => return readEntries bytes

def persist (entries : ReplayEntries) : Files (Except IoError Unit) :=
  match Crates.toVec (entriesDocument entries) with
  | none => return .error .json
  | some bytes => performAll (writeActions bytes)

/-! ## The cache -/

def pruneEveryNInserts : Nat := 64

def maxEntries : Nat := 1000000

structure DurableReplayCache where
  maxClockSkewSecs : Int
  entries : ReplayEntries
  insertsSincePrune : Nat
  maxEntries : Nat

namespace DurableReplayCache

/-- The cache of a file that exists or of none. -/
def openAt (maxClockSkewSecs : Int) : Files (Except IoError DurableReplayCache) := do
  let entries ← if ← Program.request pathExists then load else pure (.ok Assoc.SortedMap.empty)
  return entries.map fun entries => ⟨maxClockSkewSecs, entries, 0, Proxy.maxEntries⟩

def prune (cache : DurableReplayCache) (nowUnix : Int) :
    Files (Except IoError Unit × DurableReplayCache) := do
  let kept := retainFrom nowUnix cache.entries
  return (← persist kept, { cache with entries := kept })

/-- The pruning by the own clock that comes with every 64th insertion. -/
def pruneInline (cache : DurableReplayCache) : Files DurableReplayCache := do
  let inserts := min (cache.insertsSincePrune + 1) u64Max
  if pruneEveryNInserts ≤ inserts then
    let now ← Program.request clock
    return { cache with insertsSincePrune := 0, entries := retainFrom now cache.entries }
  else return { cache with insertsSincePrune := inserts }

/-- The next insertion prunes. -/
def PruneDue (cache : DurableReplayCache) : Prop :=
  pruneEveryNInserts ≤ min (cache.insertsSincePrune + 1) u64Max

omit [Crates] in
theorem runs_pruneInline {cache next : DurableReplayCache} {exchanges : List FileExchange} :
    cache.pruneInline.Runs exchanges next ↔
      cache.PruneDue ∧ (∃ reading, exchanges = [⟨clock, reading⟩] ∧
        next = { cache with insertsSincePrune := 0, entries := retainFrom reading cache.entries }) ∨
      ¬ cache.PruneDue ∧ exchanges = [] ∧
        next = { cache with insertsSincePrune := min (cache.insertsSincePrune + 1) u64Max } := by
  rw [pruneInline]
  split
  next due =>
    constructor
    · intro runs
      obtain ⟨reading, _, rfl, rfl, rfl⟩ := runs
      exact .inl ⟨due, reading, rfl, rfl⟩
    · intro pruned
      rcases pruned with ⟨_, reading, rfl, rfl⟩ | ⟨early, _⟩
      · exact ⟨reading, [], rfl, rfl, rfl⟩
      · exact absurd due early
  next early =>
    constructor
    · intro runs
      obtain ⟨rfl, rfl⟩ := runs
      exact .inr ⟨early, rfl, rfl⟩
    · intro kept
      rcases kept with ⟨due, _⟩ | ⟨_, rfl, rfl⟩
      · exact absurd due early
      · exact ⟨rfl, rfl⟩

/-- The time an entry is kept until. -/
def retainUntil (cache : DurableReplayCache) (expiresAtUnix : Int) : I64 :=
  ⟨saturatingAdd expiresAtUnix cache.maxClockSkewSecs, clampI64_mem _⟩

def checkAndInsert (cache : DurableReplayCache) (signer audience nonce : String)
    (expiresAtUnix : Int) :
    Files (Except ReplayCacheError ReplayDecision × DurableReplayCache) := do
  let key := (signer, audience, nonce)
  if (cache.entries.get? key).isSome then return (.ok .replay, cache)
  else
    let cache ← cache.pruneInline
    if cache.maxEntries ≤ cache.entries.size then
      return (.error (.unavailable ("replay cache at capacity (" ++ toString cache.maxEntries ++
        " entries); refusing to admit further nonces until expired entries drain")), cache)
    else
      let admitted := cache.entries.insert key (cache.retainUntil expiresAtUnix)
      match ← persist admitted with
      | .error e => return (.error (.unavailable ("persist failed: " ++ e.display)),
          { cache with entries := admitted.remove key })
      | .ok () => return (.ok .fresh, { cache with entries := admitted })

end DurableReplayCache

end

end Mcps.Proxy
