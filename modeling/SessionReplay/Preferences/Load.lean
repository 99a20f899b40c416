import SessionReplay.Disk.Basic
import SessionReplay.Problem

/-!
# Loading preferences

* `Preferences.loadAt` — the preferences of a file; a file of the defaults is created where there
  is none;
* `Preferences.loadOrDefaultAt` — the same, with the defaults where the file cannot be created;
* `UserFolders` — where the files of a user are kept;
* `Preferences.load`, `Preferences.loadOrDefault` — the same for the user's own file.
-/

namespace SessionReplay

open Disk

variable {m : Type → Type} [Monad m] [Disk m]

namespace Preferences

/-- The preferences of a file that is there. -/
def readFile (path : String) : Attempt m Preferences := do
  let text ← Attempt.file (.read path) (Disk.readText path)
  Attempt.ofExcept (.preferences path) (read text)

/-- A file of the defaults. -/
def createFile (path : String) : Attempt m Unit := do
  if let some folder := Place.parent? path then
    Attempt.file (.create folder) (Disk.createFolders folder)
  Attempt.file (.write path) (Disk.createFile path)
  Attempt.file (.write path) (Disk.append path (Text.bytes defaultText))

/-- The preferences of a file, which is created if it is not there. -/
def loadAt (path : String) : Attempt m Preferences := do
  if ← (Disk.isThere path : m Bool) then readFile path
  else
    createFile path
    return {}

/-- The preferences of a file. If it is not there and cannot be created, the defaults. -/
def loadOrDefaultAt (path : String) : Attempt m Preferences := do
  if ← (Disk.isThere path : m Bool) then readFile path
  else tryCatch (loadAt path) fun _ => return {}

end Preferences

/-! ## Folders of a user -/

/-- The folders that a user has chosen: the home, the one for settings, and the one for records of
what was done. -/
structure UserFolders where
  home : Option String
  config : Option String
  state : Option String
  deriving DecidableEq, Repr

namespace UserFolders

/-- The name under which the program keeps its files. -/
def programName : String := "har2k6"

/-- A chosen folder, or one in the home. Only an absolute choice counts, and without a home there is
neither. -/
def chosen (folders : UserFolders) (choice : Option String) (inHome : String) : Option String :=
  folders.home.map fun home => (choice.filter Place.isAbsolute).getD (Place.join home inHome)

/-- The place of a file in a folder of the program, which is created. -/
def place (folder : Option String) (name : String) : Attempt m String := do
  match folder with
  | none => throw (.file .place (.other none "$HOME must be set"))
  | some folder =>
    let own := Place.join folder programName
    Attempt.file .place (Disk.createFolders own)
    return Place.join own name

/-- The place of the settings file. -/
def configFile (folders : UserFolders) : Attempt m String :=
  place (folders.chosen folders.config ".config") "config.toml"

/-- The place of the log. -/
def logFile (folders : UserFolders) : Attempt m String :=
  place (folders.chosen folders.state ".local/state") (programName ++ ".log")

end UserFolders

namespace Preferences

/-- The preferences of the user. -/
def load (folders : UserFolders) : Attempt m Preferences := do
  loadAt (← folders.configFile)

/-- The preferences of the user, or the defaults if there is no place for them. -/
def loadOrDefault (folders : UserFolders) : Attempt m Preferences := do
  let place ← tryCatch (some <$> folders.configFile) fun _ => return none
  match place with
  | some path => loadOrDefaultAt path
  | none => return {}

end Preferences

end SessionReplay
