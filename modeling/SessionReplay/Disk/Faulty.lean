import SessionReplay.Disk.Tree

/-!
# File trees whose operations may fail

* `Disk.Operation` — the operations that may fail;
* `Disk.Fate` — what befalls one operation;
* `FaultyTree` — a tree, the fates of the operations to come, and the trees that it has been;
* the `Disk` of a faulty tree. Bytes go to a file piece by piece, and each piece counts as a step.
-/

namespace SessionReplay

namespace Disk

/-- The operations that may fail. The bytes of a file are read after it is opened. -/
inductive Operation where
  | stream
  | read
  | createFolder
  | createFile
  | append
  | sync
  | rename
  | remove
  deriving DecidableEq, Repr

/-- What befalls one operation: its fault, if it has one, and the sizes of the first pieces in
which bytes come and go. Bytes that are appended without a fault all go in the end; before a fault
only those pieces do. -/
structure Fate where
  fault : Operation → Option Fault := fun _ => none
  pieces : List Nat := []

/-- The first pieces of bytes, of given sizes, and the bytes behind them. -/
def cut : List Nat → List UInt8 → List (List UInt8) × List UInt8
  | [], bytes => ([], bytes)
  | size :: sizes, bytes =>
    let (pieces, rest) := cut sizes (bytes.drop size)
    (bytes.take size :: pieces, rest)

end Disk

/-- A tree whose operations may fail: the tree as it stands, what befalls the operations to come,
and the trees that it has become since the start, the last one first. Where no fate is left, no
operation fails but for the tree. -/
structure FaultyTree where
  tree : FileTree
  fates : List Disk.Fate
  past : List FileTree

namespace FaultyTree

open Disk (Fault Fate Operation)

/-- The start of a run. -/
def start (tree : FileTree) (fates : List Fate) : FaultyTree := ⟨tree, fates, []⟩

/-- The fate of the next operation. -/
def nextFate : StateM FaultyTree Fate := do
  let s ← get
  set { s with fates := s.fates.tail }
  return s.fates.headD {}

/-- A change of the tree, if it succeeds. -/
def change (f : FileTree → Except Fault FileTree) : StateM FaultyTree (Except Fault Unit) := do
  let s ← get
  match f s.tree with
  | .ok tree =>
    set { s with tree, past := tree :: s.past }
    return .ok ()
  | .error fault => return .error fault

/-- A change of the tree, unless its fate is a fault. -/
def attempt (operation : Operation) (f : FileTree → Except Fault FileTree) :
    StateM FaultyTree (Except Fault Unit) := do
  let fate ← nextFate
  match fate.fault operation with
  | some fault => return .error fault
  | none => change f

/-- Pieces of bytes at the end of a file, one after the other. -/
def store (path : String) : List (List UInt8) → StateM FaultyTree (Except Fault Unit)
  | [] => return .ok ()
  | piece :: pieces => do
    match ← change (·.append path piece) with
    | .ok () => store path pieces
    | .error fault => return .error fault

/-- Bytes at the end of a file: all of them, or some before a fault. -/
def append (path : String) (bytes : List UInt8) : StateM FaultyTree (Except Fault Unit) := do
  let fate ← nextFate
  let (pieces, rest) := Disk.cut fate.pieces bytes
  match fate.fault .append with
  | none => store path (pieces ++ [rest])
  | some fault =>
    match ← store path pieces with
    | .ok () => return .error fault
    | .error earlier => return .error earlier

/-- What comes of a file, which may break off. -/
def stream (path : String) : StateM FaultyTree (Except Fault Disk.Stream) := do
  let fate ← nextFate
  match fate.fault .stream with
  | some fault => return .error fault
  | none =>
    let found := ((← get).tree.find path).map FileTree.streamOf
    match fate.fault .read with
    | none => return found
    | some fault =>
      return found.map fun whole => ⟨(Disk.cut fate.pieces whole.pieces.flatten).1, some fault⟩

instance : Disk (StateM FaultyTree) where
  isThere path := do return ((← get).tree.find path).toOption.isSome
  isFolder path := do return ((← get).tree.find path).toOption = some .folder
  isSame path other := do return (← get).tree.isSame path other
  stream path := stream path
  createFolder path := attempt .createFolder (·.createFolder path)
  createFile path := attempt .createFile (·.createFile path)
  append path bytes := append path bytes
  sync _ := attempt .sync .ok
  rename source target := attempt .rename (·.rename source target)
  remove path := attempt .remove (·.remove path)

/-- A computation on a faulty tree, with its value and the tree behind it. -/
def run {α : Type} (x : StateM FaultyTree α) (s : FaultyTree) : α × FaultyTree := StateT.run x s

end FaultyTree

end SessionReplay
