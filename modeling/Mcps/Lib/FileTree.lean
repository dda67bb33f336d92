import Mcps.Lib.Assoc
import Mcps.Lib.Result
import Mcps.Lib.Utf8

/-!
# File trees with symbolic links

A path is resolved piece by piece from a directory.  A link is replaced by its target, in the
middle of a path as at its end, up to a number of links.  The location that comes out holds no
link, and resolving it again leads to itself.
-/

namespace Files

open List Except

/-- A place in a tree: the names from the root on. -/
abbrev Location := List String

/-- A path: whether it starts at the root, and what stands between its separators. -/
structure Path where
  rooted : Bool
  pieces : List String
  deriving DecidableEq, Repr

/-- A name that an entry of a directory can have. -/
def Ordinary (name : String) : Prop :=
  name ≠ "" ∧ name ≠ "." ∧ name ≠ ".." ∧ '\x00' ∉ textChars name

instance (name : String) : Decidable (Ordinary name) := instDecidableAnd

namespace Path

inductive Component where
  | rootDir
  | curDir
  | parentDir
  | normal (name : String)
  deriving DecidableEq, Repr

def ofText (text : String) : Path :=
  match textChars text with
  | '/' :: rest => ⟨true, (rest.splitOn '/').map String.ofList⟩
  | chars => ⟨false, (chars.splitOn '/').map String.ofList⟩

def Component.ofPiece (piece : String) : Option Component :=
  if piece = "" ∨ piece = "." then none
  else if piece = ".." then some .parentDir
  else some (.normal piece)

def Component.piece : Component → String
  | .rootDir => ""
  | .curDir => "."
  | .parentDir => ".."
  | .normal name => name

/-- The components of a path, in which only a leading dot counts. -/
def components (path : Path) : List Component :=
  let body := path.pieces.filterMap Component.ofPiece
  if path.rooted then .rootDir :: body
  else if path.pieces.head? = some "." then .curDir :: body
  else body

def fileName (path : Path) : Option String :=
  match path.components.getLast? with
  | some (.normal name) => some name
  | _ => none

def parent (path : Path) : Option Path :=
  match path.components.getLast? with
  | none | some .rootDir => none
  | some _ =>
    match path.components.dropLast with
    | [] => some (ofText "")
    | components => some ⟨path.rooted, components.map Component.piece⟩

def join (path other : Path) : Path :=
  if other.rooted then other else ⟨path.rooted, path.pieces ++ other.pieces⟩

theorem normal_mem_components {path : Path} {name : String}
    (member : .normal name ∈ path.components) : name ≠ "" ∧ name ≠ "." ∧ name ≠ ".." := by
  have inside : .normal name ∈ path.pieces.filterMap Component.ofPiece := by
    unfold components at member
    split_ifs at member <;> simpa using member
  obtain ⟨piece, -, read⟩ := mem_filterMap.mp inside
  unfold Component.ofPiece at read
  split_ifs at read with stays up
  · simp at read
  · obtain rfl : piece = name := by simpa using read
    rw [not_or] at stays
    exact ⟨stays.1, stays.2, up⟩

theorem fileName_mem_components {path : Path} {name : String}
    (named : path.fileName = some name) : .normal name ∈ path.components := by
  unfold fileName at named
  split at named
  case h_1 last => cases named; exact mem_of_getLast? last
  case h_2 => cases named

end Path

inductive Node where
  | directory
  | file (content : Bytes)
  | symlink (target : String)
  deriving DecidableEq, Repr

inductive OsError where
  | notFound
  | notADirectory
  | isADirectory
  | loop
  | invalidInput
  deriving DecidableEq, Repr

def OsError.text : OsError → String
  | .notFound => "No such file or directory (os error 2)"
  | .notADirectory => "Not a directory (os error 20)"
  | .isADirectory => "Is a directory (os error 21)"
  | .loop => "Too many levels of symbolic links (os error 40)"
  | .invalidInput => "file name contained an unexpected NUL byte"

/-- The entries of a file system: each in a directory and under an ordinary name. -/
structure Tree where
  entries : List (Location × Node)
  workingDirectory : Location
  linkLimit : Nat
  root : Assoc.find? [] entries = some .directory
  working : Assoc.find? workingDirectory entries = some .directory
  parents : ∀ entry ∈ entries, entry.1 ≠ [] →
    Assoc.find? entry.1.dropLast entries = some .directory
  names : ∀ entry ∈ entries, ∀ name ∈ entry.1, Ordinary name

namespace Tree

variable (tree : Tree)

def node (location : Location) : Option Node := Assoc.find? location tree.entries

/-- Walk along the pieces; what a link and the pieces behind it lead to is another walk. -/
def walkWith (onLink : Location → List String → Except OsError Location) :
    Location → List String → Except OsError Location
  | current, [] => .ok current
  | current, piece :: rest =>
    if tree.node current ≠ some .directory then .error .notADirectory
    else if piece = "" ∨ piece = "." then walkWith onLink current rest
    else if piece = ".." then walkWith onLink current.dropLast rest
    else match tree.node (current ++ [piece]) with
      | some (.symlink target) =>
        let path := Path.ofText target
        onLink (if path.rooted then [] else current) (path.pieces ++ rest)
      | some _ => walkWith onLink (current ++ [piece]) rest
      -- The last piece may name what is yet to be created.
      | none => if rest = [] then .ok (current ++ [piece]) else .error .notFound

def walk : Nat → Location → List String → Except OsError Location
  | 0 => tree.walkWith fun _ _ => .error .loop
  | links + 1 => tree.walkWith (walk links)

def resolve (path : Path) : Except OsError Location :=
  if ∃ piece ∈ path.pieces, '\x00' ∈ textChars piece then .error .invalidInput
  else if path = Path.ofText "" then .error .notFound
  else tree.walk tree.linkLimit (if path.rooted then [] else tree.workingDirectory) path.pieces

/-- What a path leads to. -/
def locate (path : Path) : Except OsError (Location × Node) := do
  let location ← tree.resolve path
  let node ← (tree.node location).okOr .notFound
  return (location, node)

def canonicalize (path : Path) : Except OsError Location :=
  Prod.fst <$> tree.locate path

/-- A directory's location and the names in it. -/
def readDir (path : Path) : Except OsError (Location × List String) := do
  match ← tree.locate path with
  | (location, .directory) =>
    return (location, tree.entries.filterMap fun (entry, _) =>
      if entry.dropLast = location then entry.getLast? else none)
  | _ => .error .notADirectory

def read (path : Path) : Except OsError (Location × Bytes) := do
  match ← tree.locate path with
  | (location, .file content) => return (location, content)
  | _ => .error .isADirectory

/-- Where a file is written. -/
def write (path : Path) : Except OsError Location := do
  let location ← tree.resolve path
  if tree.node location = some .directory then .error .isADirectory else return location

/-! ## Resolved locations -/

/-- No link stands at the location. -/
def NoLink (location : Location) : Prop := ∀ target, tree.node location ≠ some (.symlink target)

variable {tree} {base rest current location : Location} {name : String} {node : Node}
  {onLink : Location → List String → Except OsError Location} {path : Path}

theorem noLink_of_node (held : tree.node location = some .directory) : tree.NoLink location := by
  intro target linked
  cases held.symm.trans linked

theorem directory_of_append (held : tree.node (base ++ rest) = some node) (below : rest ≠ []) :
    tree.node base = some .directory := by
  induction rest using reverseRecOn generalizing node with
  | nil => exact absurd rfl below
  | append_singleton rest name ih =>
    have above : tree.node (base ++ rest) = some .directory := by
      have parent := tree.parents _ (Assoc.mem_of_find? held) (by simp)
      rwa [← append_assoc, dropLast_concat] at parent
    by_cases direct : rest = []
    · rwa [direct, append_nil] at above
    · exact ih above direct

theorem directory_dropLast (held : tree.node location = some .directory) :
    tree.node location.dropLast = some .directory := by
  by_cases top : location = []
  · rwa [top] at held ⊢
  · exact tree.parents _ (Assoc.mem_of_find? held) top

theorem walkWith_name (inside : tree.node current = some .directory)
    (ordinary : name ≠ "" ∧ name ≠ "." ∧ name ≠ "..") (rest : List String) :
    tree.walkWith onLink current (name :: rest) =
      match tree.node (current ++ [name]) with
      | some (.symlink target) =>
        let path := Path.ofText target
        onLink (if path.rooted then [] else current) (path.pieces ++ rest)
      | some _ => tree.walkWith onLink (current ++ [name]) rest
      | none => if rest = [] then .ok (current ++ [name]) else .error .notFound := by
  rw [walkWith, if_neg (not_not.mpr inside), if_neg (by simp [ordinary]), if_neg ordinary.2.2]

theorem walkWith_append (held : tree.node (current ++ location) = some node)
    (noLink : tree.NoLink (current ++ location)) (rest : List String) :
    tree.walkWith onLink current (location ++ rest) =
      tree.walkWith onLink (current ++ location) rest := by
  induction location generalizing current with
  | nil => simp
  | cons name location ih =>
    have inside := directory_of_append held (cons_ne_nil name location)
    obtain ⟨nonempty, notDot, notUp, -⟩ :=
      tree.names _ (Assoc.mem_of_find? held) name (by simp)
    have split : current ++ name :: location = current ++ [name] ++ location := by simp
    rw [split] at held noLink ⊢
    have passed : tree.walkWith onLink current (name :: (location ++ rest)) =
        tree.walkWith onLink (current ++ [name]) (location ++ rest) := by
      have entry : ∃ node, tree.node (current ++ [name]) = some node := by
        by_cases last : location = []
        · exact ⟨node, by rwa [last, append_nil] at held⟩
        · exact ⟨.directory, directory_of_append held last⟩
      have enters : tree.NoLink (current ++ [name]) := by
        by_cases last : location = []
        · rwa [last, append_nil] at noLink
        · exact noLink_of_node (directory_of_append held last)
      obtain ⟨node, entry⟩ := entry
      rw [walkWith_name inside ⟨nonempty, notDot, notUp⟩, entry]
      cases node with
      | symlink target => exact absurd entry (enters target)
      | directory | file _ => rfl
    rw [cons_append, passed, ih held noLink]

theorem walkWith_noLink
    (onward : ∀ base pieces location, tree.NoLink base →
      onLink base pieces = .ok location → tree.NoLink location)
    {pieces : List String} (start : tree.NoLink current)
    (walked : tree.walkWith onLink current pieces = .ok location) : tree.NoLink location := by
  fun_induction walkWith tree onLink current pieces with
  | case1 => cases walked; exact start
  | case2 => cases walked
  | case3 current piece rest inside stays ih => exact ih start walked
  | case4 current rest inside _ ih =>
    exact ih (noLink_of_node (directory_dropLast (not_not.mp inside))) walked
  | case5 current piece rest inside _ _ target linked path =>
    apply onward _ _ _ _ walked
    split
    · exact noLink_of_node tree.root
    · exact start
  | case6 current piece rest inside _ _ node noLink held ih =>
    apply ih _ walked
    intro target linked
    exact noLink target (Option.some.inj (held.symm.trans linked))
  | case7 current piece inside _ _ absent =>
    cases walked
    intro target linked
    cases absent.symm.trans linked
  | case8 => cases walked

theorem walk_noLink {links : Nat} {pieces : List String} (start : tree.NoLink current)
    (walked : tree.walk links current pieces = .ok location) : tree.NoLink location := by
  induction links generalizing current location pieces with
  | zero => exact walkWith_noLink (by simp) start walked
  | succ links ih => exact walkWith_noLink (fun _ _ _ => ih) start walked

variable (tree) in
theorem exists_walkWith (links : Nat) : ∃ onLink, tree.walk links = tree.walkWith onLink := by
  cases links <;> exact ⟨_, rfl⟩

theorem resolve_noLink (resolved : tree.resolve path = .ok location) : tree.NoLink location := by
  unfold resolve at resolved
  split_ifs at resolved with nul empty rooted
  · exact walk_noLink (noLink_of_node tree.root) resolved
  · exact walk_noLink (noLink_of_node tree.working) resolved

theorem resolve_location (held : tree.node location = some node) (noLink : tree.NoLink location) :
    tree.resolve ⟨true, location⟩ = .ok location := by
  have clean : ¬ ∃ piece ∈ location, '\x00' ∈ textChars piece := by
    intro ⟨piece, member, nul⟩
    exact (tree.names _ (Assoc.mem_of_find? held) piece member).2.2.2 nul
  obtain ⟨onLink, walks⟩ := tree.exists_walkWith tree.linkLimit
  have walked := @walkWith_append tree [] location node onLink held noLink []
  rw [append_nil] at walked
  rw [resolve, if_neg clean, if_pos rfl, walks, walked]
  rfl

theorem node_of_locate (located : tree.locate path = .ok (location, node)) :
    tree.node location = some node ∧ tree.NoLink location := by
  simp only [locate, bind_eq_ok] at located
  obtain ⟨_, resolved, _, there, same⟩ := located
  cases same
  exact ⟨Option.okOr_eq_ok.mp there, resolve_noLink resolved⟩

theorem locate_of_readDir {names : List String}
    (listed : tree.readDir path = .ok (location, names)) :
    ∃ node, tree.locate path = .ok (location, node) := by
  obtain ⟨⟨_, node⟩, located, rest⟩ := bind_eq_ok.mp listed
  cases node with
  | directory => cases rest; exact ⟨_, located⟩
  | file | symlink => cases rest

theorem locate_of_read {content : Bytes} (served : tree.read path = .ok (location, content)) :
    ∃ node, tree.locate path = .ok (location, node) := by
  obtain ⟨⟨_, node⟩, located, rest⟩ := bind_eq_ok.mp served
  cases node with
  | file content => cases rest; exact ⟨_, located⟩
  | directory | symlink => cases rest

theorem locate_location (located : tree.locate path = .ok (location, node)) :
    tree.locate ⟨true, location⟩ = .ok (location, node) := by
  obtain ⟨held, noLink⟩ := node_of_locate located
  rw [locate, resolve_location held noLink, bind_ok, held]
  rfl

theorem resolve_child (held : tree.node base = some node) (noLink : tree.NoLink base)
    (ordinary : name ≠ "" ∧ name ≠ "." ∧ name ≠ "..") (unlinked : tree.NoLink (base ++ [name]))
    (resolved : tree.resolve ⟨true, base ++ [name]⟩ = .ok location) :
    location = base ++ [name] := by
  obtain ⟨onLink, walks⟩ := tree.exists_walkWith tree.linkLimit
  have walked : tree.walkWith onLink base [name] = .ok location := by
    unfold resolve at resolved
    split_ifs at resolved with nul empty rooted
    · rwa [walks, walkWith_append held noLink] at resolved
    · exact absurd rfl rooted
  by_cases inside : tree.node base = some .directory
  · rw [walkWith_name inside ordinary] at walked
    split at walked
    case h_1 target linked => exact absurd linked (unlinked target)
    case h_2 => cases walked; rfl
    case h_3 => cases walked; rfl
  · rw [walkWith, if_pos inside] at walked
    cases walked

end Tree

end Files
