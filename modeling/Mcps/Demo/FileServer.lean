import Mcps.Lib.FileTree

/-!
# The demo file server

The four file tools and how a requested path is confined to the demo root: no step up and no
absolute path is accepted, and what exists is compared with the root after links have been
followed.  Every tool reports the locations it reads, creates or changes.

A file is written under its name in a directory inside the root.  Nothing looks at what stands
under that name: a link there is followed out of the root.
-/

namespace Mcps.Demo

open Files List Except

def maxFileBytes : Nat := 2 ^ 20

inductive FileServerError where
  | invalidParams (detail : String)
  | pathEscapesRoot (path : String)
  | readDir (path detail : String)
  | io (path detail : String)
  | notUtf8 (path : String)
  | tooLarge (path : String) (limit : Nat)
  deriving DecidableEq, Repr

inductive Kind where
  | directory
  | file
  | unknown
  deriving DecidableEq, Repr

/-- An entry of a listing, or a path with its type and size. -/
structure Info where
  name : String
  kind : Kind
  size : Nat
  deriving DecidableEq, Repr

def Node.info (name : String) : Node → Info
  | .directory => ⟨name, .directory, 0⟩
  | .file content => ⟨name, .file, content.length⟩
  | .symlink target => ⟨name, .file, (textBytes target).length⟩

structure FileServer where
  demoRoot : Path

namespace FileServer

variable (server : FileServer) (tree : Tree)

def rejectLexicalEscape (requested : String) : Except FileServerError Path :=
  let path := Path.ofText requested
  if path.components.all (fun | .parentDir | .rootDir => false | .curDir | .normal _ => true) then
    .ok path
  else .error (.pathEscapesRoot requested)

def canonicalRoot : Except FileServerError Location :=
  (tree.canonicalize server.demoRoot).mapError fun error => .readDir "." error.text

/-- Where to read, list and inspect. -/
def resolveWithinRoot (requested : String) : Except FileServerError Path := do
  let path ← rejectLexicalEscape requested
  let joined := server.demoRoot.join path
  let canonicalRoot ← server.canonicalRoot tree
  match tree.canonicalize joined with
  | .ok canonicalTarget =>
    if ¬ canonicalRoot <+: canonicalTarget then .error (.pathEscapesRoot requested)
    else return ⟨true, canonicalTarget⟩
  | .error _ => return joined

/-- Where to write: the requested name in its canonical parent directory. -/
def resolveForWrite (requested : String) : Except FileServerError Path := do
  let path ← rejectLexicalEscape requested
  let fileName ← path.fileName.okOr
    (.invalidParams s!"write_file requires a file path, got '{requested}'")
  let parentAbs := server.demoRoot.join (path.parent.getD (.ofText ""))
  let canonicalRoot ← server.canonicalRoot tree
  let canonicalParent ← (tree.canonicalize parentAbs).mapError fun error =>
    .io requested error.text
  if ¬ canonicalRoot <+: canonicalParent then .error (.pathEscapesRoot requested)
  else return ⟨true, canonicalParent ++ [fileName]⟩

def listFiles (requested : String) : Except FileServerError (List Info × List Location) := do
  let resolved ← server.resolveWithinRoot tree requested
  let (directory, names) ← (tree.readDir resolved).mapError fun error =>
    .readDir requested error.text
  let entries := names.map fun name =>
    ((tree.node (directory ++ [name])).map (Node.info name)).getD ⟨name, .unknown, 0⟩
  return (entries.mergeSort fun first second => first.name ≤ second.name,
    directory :: names.map fun name => directory ++ [name])

def readFile (requested : String) : Except FileServerError (String × List Location) := do
  let resolved ← server.resolveWithinRoot tree requested
  let (measured, node) ← (tree.locate resolved).mapError fun error => .io requested error.text
  let info := Node.info requested node
  if info.kind = .directory then .error (.io requested "is a directory")
  else if info.size > maxFileBytes then .error (.tooLarge requested maxFileBytes)
  else
    let (location, content) ← (tree.read resolved).mapError fun error => .io requested error.text
    let text ← (decodeUtf8 content).okOr (.notUtf8 requested)
    return (String.ofList text, [measured, location])

def stat (requested : String) : Except FileServerError (Info × List Location) := do
  let resolved ← server.resolveWithinRoot tree requested
  let (location, node) ← (tree.locate resolved).mapError fun error => .io requested error.text
  return (Node.info requested node, [location])

def writeFile (requested content : String) : Except FileServerError (Nat × List Location) := do
  let length := (textBytes content).length
  if length > maxFileBytes then .error (.tooLarge requested maxFileBytes)
  else
    let target ← server.resolveForWrite tree requested
    let location ← (tree.write target).mapError fun error => .io requested error.text
    return (length, [location])

end FileServer

/-! ## Confinement -/

inductive ToolCall where
  | listFiles (path : String)
  | readFile (path : String)
  | stat (path : String)
  | writeFile (path content : String)

namespace FileServer

variable {server : FileServer} {tree : Tree} {root location : Location} {requested : String}
  {target : Path}

variable (server tree) in
/-- The locations that a call touches if it succeeds. -/
def touched : ToolCall → Except FileServerError (List Location)
  | .listFiles path => Prod.snd <$> server.listFiles tree path
  | .readFile path => Prod.snd <$> server.readFile tree path
  | .stat path => Prod.snd <$> server.stat tree path
  | .writeFile path content => Prod.snd <$> server.writeFile tree path content

theorem confined_of_locate {node : Node}
    (resolved : server.resolveWithinRoot tree requested = .ok target)
    (located : tree.locate target = .ok (location, node)) :
    ∃ root, server.canonicalRoot tree = .ok root ∧ root <+: location := by
  obtain ⟨path, -, rest⟩ := bind_eq_ok.mp resolved
  obtain ⟨root, rooted, rest⟩ := bind_eq_ok.mp rest
  refine ⟨root, rooted, ?_⟩
  cases canonical : tree.canonicalize (server.demoRoot.join path) with
  | error error =>
    rw [canonical] at rest
    cases rest
    rw [Tree.canonicalize, located] at canonical
    cases canonical
  | ok found =>
    rw [canonical] at rest
    obtain ⟨inside, same⟩ := guard_eq_ok.mp rest
    cases same
    obtain ⟨⟨_, _⟩, first, same⟩ := map_eq_ok.mp canonical
    cases same
    rw [Tree.locate_location first] at located
    cases located
    exact not_not.mp inside

variable {locations : List Location}

variable (server tree) in
/-- All locations lie under the canonical demo root. -/
def Confined (locations : List Location) : Prop :=
  ∃ root, server.canonicalRoot tree = .ok root ∧ ∀ location ∈ locations, root <+: location

theorem confined_listFiles {entries : List Info}
    (listed : server.listFiles tree requested = .ok (entries, locations)) :
    server.Confined tree locations := by
  simp only [listFiles, bind_eq_ok] at listed
  obtain ⟨_, resolved, ⟨directory, _⟩, held, rest⟩ := listed
  cases rest
  obtain ⟨_, located⟩ := Tree.locate_of_readDir (mapError_eq_ok.mp held)
  obtain ⟨root, rooted, inside⟩ := confined_of_locate resolved located
  refine ⟨root, rooted, forall_mem_cons.mpr ⟨inside, ?_⟩⟩
  intro location member
  obtain ⟨name, -, same⟩ := mem_map.mp member
  exact same ▸ inside.trans (prefix_append directory [name])

theorem confined_readFile {text : String}
    (served : server.readFile tree requested = .ok (text, locations)) :
    server.Confined tree locations := by
  simp only [readFile, bind_eq_ok, guard_eq_ok] at served
  obtain ⟨_, resolved, ⟨_, _⟩, located, -, -, ⟨_, _⟩, read, _, -, same⟩ := served
  cases same
  have first := mapError_eq_ok.mp located
  obtain ⟨_, second⟩ := Tree.locate_of_read (mapError_eq_ok.mp read)
  cases first.symm.trans second
  obtain ⟨root, rooted, inside⟩ := confined_of_locate resolved first
  exact ⟨root, rooted, by simp [inside]⟩

theorem confined_stat {info : Info} (served : server.stat tree requested = .ok (info, locations)) :
    server.Confined tree locations := by
  simp only [stat, bind_eq_ok] at served
  obtain ⟨_, resolved, ⟨_, _⟩, located, same⟩ := served
  cases same
  obtain ⟨root, rooted, inside⟩ := confined_of_locate resolved (mapError_eq_ok.mp located)
  exact ⟨root, rooted, by simp [inside]⟩

variable (server tree) in
/-- The requested file stands behind a link out of the root. -/
def EscapesByLink (requested : String) : Prop :=
  ∃ root target link location, server.canonicalRoot tree = .ok root ∧
    server.resolveForWrite tree requested = .ok target ∧
    tree.node target.pieces = some (.symlink link) ∧
    tree.resolve target = .ok location ∧ ¬ root <+: location

theorem confined_writeFile_iff {content : String} {length : Nat}
    (served : server.writeFile tree requested content = .ok (length, locations)) :
    server.Confined tree locations ↔ ¬ server.EscapesByLink tree requested := by
  simp only [writeFile, Tree.write, guard_eq_ok, bind_eq_ok, mapError_eq_ok] at served
  obtain ⟨-, target, resolved, location, ⟨place, leads, -, ⟨⟩⟩, ⟨⟩⟩ := served
  have opened := resolved
  simp only [resolveForWrite, guard_eq_ok, bind_eq_ok, mapError_eq_ok] at opened
  obtain ⟨_, -, name, named, root, rooted, _, canonical, inside, ⟨⟩⟩ := opened
  obtain ⟨⟨place, _⟩, located, ⟨⟩⟩ := map_eq_ok.mp canonical
  obtain ⟨held, unlinked⟩ := Tree.node_of_locate located
  constructor
  · intro ⟨root, rooted, within⟩ ⟨_, target, link, place, again, same, _, there, outside⟩
    cases rooted.symm.trans again
    cases resolved.symm.trans same
    cases leads.symm.trans there
    exact outside (within location mem_cons_self)
  · intro stays
    refine ⟨root, rooted, forall_mem_singleton.mpr ?_⟩
    by_contra outside
    have ordinary := Path.normal_mem_components (Path.fileName_mem_components
      (Option.okOr_eq_ok.mp named))
    have noLink : tree.NoLink (place ++ [name]) := by
      intro link linked
      exact stays ⟨root, _, link, location, rooted, resolved, linked, leads, outside⟩
    have same := Tree.resolve_child held unlinked ordinary noLink leads
    exact outside (same ▸ (not_not.mp inside).trans (prefix_append place [name]))

/-- A successful call touches only what lies inside the root, exactly if it does not write
through a link out of it. -/
theorem touched_confined_iff (server : FileServer) (tree : Tree) (call : ToolCall)
    (locations : List Location) (succeeds : server.touched tree call = .ok locations) :
    server.Confined tree locations ↔
      ¬ ∃ path content, call = .writeFile path content ∧ server.EscapesByLink tree path := by
  cases call with
  | listFiles path =>
    obtain ⟨⟨entries, _⟩, served, rfl⟩ := Except.map_eq_ok.mp succeeds
    exact iff_of_true (confined_listFiles served) (by simp)
  | readFile path =>
    obtain ⟨⟨text, _⟩, served, rfl⟩ := Except.map_eq_ok.mp succeeds
    exact iff_of_true (confined_readFile served) (by simp)
  | stat path =>
    obtain ⟨⟨info, _⟩, served, rfl⟩ := Except.map_eq_ok.mp succeeds
    exact iff_of_true (confined_stat served) (by simp)
  | writeFile path content =>
    obtain ⟨⟨length, _⟩, served, rfl⟩ := Except.map_eq_ok.mp succeeds
    simpa using confined_writeFile_iff served

/-- A demo root with a link to a file outside. -/
def linkedTree : Tree where
  entries := [([], .directory), (["etc"], .directory), (["etc", "motd"], .file []),
    (["demo"], .directory), (["demo", "notes"], .file []),
    (["demo", "link"], .symlink "/etc/motd")]
  workingDirectory := []
  linkLimit := 40
  root := rfl
  working := rfl
  parents := by decide
  names := by decide +kernel

def demoServer : FileServer := ⟨.ofText "/demo"⟩

/-- Writing to the link writes the file outside. -/
theorem writeFile_linkedTree :
    demoServer.touched linkedTree (.writeFile "link" "x") = .ok [["etc", "motd"]] ∧
      ¬ demoServer.Confined linkedTree [["etc", "motd"]] := by
  have rooted : demoServer.canonicalRoot linkedTree = .ok ["demo"] := by decide +kernel
  refine ⟨by decide +kernel, ?_⟩
  intro ⟨root, again, inside⟩
  cases rooted.symm.trans again
  exact absurd (inside _ List.mem_cons_self) (by decide)

/-- Writing to the file touches the file inside the root. -/
theorem touched_confined_notes :
    demoServer.touched linkedTree (.writeFile "notes" "x") = .ok [["demo", "notes"]] ∧
      (demoServer.Confined linkedTree [["demo", "notes"]] ↔
        ¬ ∃ path content, ToolCall.writeFile "notes" "x" = .writeFile path content ∧
          demoServer.EscapesByLink linkedTree path) := by
  have served : demoServer.touched linkedTree (.writeFile "notes" "x") =
      .ok [["demo", "notes"]] := by decide +kernel
  exact ⟨served, touched_confined_iff demoServer linkedTree _ _ served⟩

end FileServer

end Mcps.Demo
