import SessionReplay.Disk.Fault
import SessionReplay.Disk.Place
import SessionReplay.Text.Utf8

/-!
# Disks

* `Disk` — the file operations that a program needs, each of which may fail;
* `Disk.createFolders` — a folder and those above it;
* `Disk.readText` — a file that holds a text.
-/

namespace SessionReplay

/-- The file operations of a monad. Paths are as they are written. -/
class Disk (m : Type → Type) where
  /-- There is a file or a folder. -/
  isThere : String → m Bool
  /-- There is a folder. -/
  isFolder : String → m Bool
  /-- Two places are those of one file or folder. -/
  isSame : String → String → m Bool
  /-- A file opened for reading. -/
  stream : String → m (Except Disk.Fault Disk.Stream)
  /-- A new folder in one that is there. -/
  createFolder : String → m (Except Disk.Fault Unit)
  /-- An empty file in place of what was there. -/
  createFile : String → m (Except Disk.Fault Unit)
  /-- Bytes at the end of a file, which is created if it is not there. -/
  append : String → List UInt8 → m (Except Disk.Fault Unit)
  /-- All bytes of a file brought to the disk. -/
  sync : String → m (Except Disk.Fault Unit)
  /-- A file under another name, in place of what was there. -/
  rename : String → String → m (Except Disk.Fault Unit)
  /-- A file taken away. -/
  remove : String → m (Except Disk.Fault Unit)

namespace Disk

variable {m : Type → Type} [Monad m] [Disk m]

/-- A folder that may be there already. -/
def createFolderUnlessThere (path : String) : m (Except Fault Unit) := do
  match ← createFolder path with
  | .ok () => return .ok ()
  | .error fault => return if ← isFolder path then .ok () else .error fault

/-- The folder that comes first in a list; each other one is the folder above the one before it,
and is created only if it is missing. -/
def createFoldersFrom : List String → m (Except Fault Unit)
  | [] => return .error (.other none "failed to create whole tree")
  | path :: above => do
    if path.isEmpty then return .ok ()
    match ← createFolder path with
    | .ok () => return .ok ()
    | .error .noEntry =>
      match ← createFoldersFrom above with
      | .ok () => createFolderUnlessThere path
      | .error fault => return .error fault
    | .error fault => return if ← isFolder path then .ok () else .error fault

/-- A folder and those above it, as far as they are missing. -/
def createFolders (path : String) : m (Except Fault Unit) :=
  createFoldersFrom (Place.lineage path)

/-- All bytes of a stream. -/
def Stream.bytes (s : Stream) : Except Fault (List UInt8) :=
  match s.failure with
  | some fault => .error fault
  | none => .ok s.pieces.flatten

/-- The text that a stream holds. -/
def Stream.text (s : Stream) : Except Fault String := do
  match Text.ofBytes? (← s.bytes) with
  | some text => return text
  | none => throw .notText

/-- The text that a file holds. -/
def readText (path : String) : m (Except Fault String) := do
  return (← stream path).bind Stream.text

end Disk

end SessionReplay
