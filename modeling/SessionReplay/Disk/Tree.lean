import SessionReplay.Disk.Basic

/-!
# File trees

* `FileTree` — files and folders by their full names, and the working folder;
* `FileTree.entry?`, `FileTree.put`, `FileTree.erase` — what stands under a name, and changes;
* `FileTree.walk`, `FileTree.locate`, `FileTree.find` — what a written place means;
* the `Disk` of a tree — the file operations as changes of the tree.
-/

namespace SessionReplay

/-- What stands under a name. -/
inductive FileEntry where
  | folder
  | file (content : List UInt8)
  deriving DecidableEq, Repr

/-- The full name of a file or folder, from the top folder. -/
abbrev FileName : Type := List String

/-- Files and folders, and the folder from which places are counted. The top folder is always
there. -/
structure FileTree where
  entries : List (FileName × FileEntry)
  here : FileName
  deriving DecidableEq, Repr

namespace FileTree

open Disk (Fault)

/-! ## Names -/

/-- What stands under a name. -/
def entry? (tree : FileTree) (name : FileName) : Option FileEntry :=
  if name = [] then some .folder else tree.entries.lookup name

/-- Nothing under a name. -/
def erase (tree : FileTree) (name : FileName) : FileTree :=
  { tree with entries := tree.entries.filter fun entry => entry.1 ≠ name }

/-- Another entry under a name. -/
def put (tree : FileTree) (name : FileName) (entry : FileEntry) : FileTree :=
  { tree with entries := (name, entry) :: (tree.erase name).entries }

/-! ## Places -/

/-- The folder that a step leads to. -/
def step (tree : FileTree) (folder : FileName) (name : String) : Except Fault FileName :=
  if name = "." then .ok folder
  else if name = ".." then .ok folder.dropLast
  else
    match tree.entry? (folder ++ [name]) with
    | some .folder => .ok (folder ++ [name])
    | some (.file _) => .error .notFolder
    | none => .error .noEntry

/-- The folder that steps lead to. -/
def walk (tree : FileTree) (folder : FileName) (names : List String) : Except Fault FileName :=
  names.foldlM tree.step folder

/-- The last step of a place: into a folder that is there, or to a name in a folder. A slash after
a name wants a folder. -/
inductive Target where
  | folder (name : FileName)
  | entry (name : FileName) (slash : Bool)
  deriving DecidableEq, Repr

/-- The full name that a last step leads to. -/
def Target.name : Target → FileName
  | .folder name => name
  | .entry name _ => name

/-- The meaning of a place. The folders on the way must be there. -/
def locate (tree : FileTree) (path : String) : Except Fault Target := do
  if path.isEmpty then throw .noEntry
  let base := if Disk.Place.isAbsolute path then [] else tree.here
  let names := (Disk.Place.names path).filter fun name => !name.isEmpty
  let folder ← tree.walk base names.dropLast
  match names.getLast? with
  | none => return .folder folder
  | some name =>
    if name = "." ∨ name = ".." then return .folder (← tree.step folder name)
    else return .entry (folder ++ [name]) (path.endsWith "/")

/-- What stands at a place. -/
def find (tree : FileTree) (path : String) : Except Fault FileEntry := do
  match ← tree.locate path with
  | .folder _ => return .folder
  | .entry name slash =>
    match tree.entry? name with
    | none => throw .noEntry
    | some (.file content) => if slash then throw .notFolder else return .file content
    | some .folder => return .folder

/-- Two places lead to one name. -/
def isSame (tree : FileTree) (path other : String) : Bool :=
  match tree.locate path, tree.locate other with
  | .ok target, .ok another => target.name = another.name
  | _, _ => false

/-! ## Changes -/

/-- A place that can be written to: its name, and the bytes that are there. -/
def writable (tree : FileTree) (path : String) : Except Fault (FileName × List UInt8) := do
  match ← tree.locate path with
  | .folder _ => throw .isFolder
  | .entry name slash =>
    if slash then throw .isFolder
    match tree.entry? name with
    | none => return (name, [])
    | some (.file content) => return (name, content)
    | some .folder => throw .isFolder

/-- A new folder. -/
def createFolder (tree : FileTree) (path : String) : Except Fault FileTree := do
  match ← tree.locate path with
  | .folder _ => throw .taken
  | .entry name _ =>
    if (tree.entry? name).isSome then throw .taken else return tree.put name .folder

/-- An empty file. -/
def createFile (tree : FileTree) (path : String) : Except Fault FileTree := do
  let (name, _) ← tree.writable path
  return tree.put name (.file [])

/-- Bytes at the end of a file. -/
def append (tree : FileTree) (path : String) (bytes : List UInt8) : Except Fault FileTree := do
  let (name, content) ← tree.writable path
  return tree.put name (.file (content ++ bytes))

/-- The name and the bytes of a file. -/
def fileAt (tree : FileTree) (path : String) : Except Fault (FileName × List UInt8) := do
  match ← tree.locate path with
  | .folder _ => throw .isFolder
  | .entry name slash =>
    match tree.entry? name with
    | none => throw .noEntry
    | some .folder => throw .isFolder
    | some (.file content) => if slash then throw .notFolder else return (name, content)

/-- A file under another name. -/
def rename (tree : FileTree) (source target : String) : Except Fault FileTree := do
  let (old, content) ← tree.fileAt source
  match ← tree.locate target with
  | .folder _ => throw .busy
  | .entry new slash =>
    if slash then throw .notFolder
    if tree.entry? new = some .folder then throw .isFolder
    return (tree.erase old).put new (.file content)

/-- A file taken away. -/
def remove (tree : FileTree) (path : String) : Except Fault FileTree := do
  let (name, _) ← tree.fileAt path
  return tree.erase name

/-! ## Operations -/

/-- A change, if it succeeds. -/
def attempt (change : FileTree → Except Fault FileTree) : StateM FileTree (Except Fault Unit) := do
  match change (← get) with
  | .ok tree =>
    set tree
    return .ok ()
  | .error fault => return .error fault

/-- What comes of a file or folder. -/
def streamOf : FileEntry → Disk.Stream
  | .file content => ⟨[content], none⟩
  | .folder => ⟨[], some .isFolder⟩

instance : Disk (StateM FileTree) where
  isThere path := do return ((← get).find path).toOption.isSome
  isFolder path := do return ((← get).find path).toOption = some .folder
  isSame path other := do return (← get).isSame path other
  stream path := do return ((← get).find path).map streamOf
  createFolder path := attempt (·.createFolder path)
  createFile path := attempt (·.createFile path)
  append path bytes := attempt (·.append path bytes)
  sync _ := return .ok ()
  rename source target := attempt (·.rename source target)
  remove path := attempt (·.remove path)

end FileTree

end SessionReplay
