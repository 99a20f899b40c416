import SessionReplay.Program

/-!
# The command line

The file operations of the system, and the program run with them.
-/

namespace SessionReplay.Main

/-- The fault that the system reports. -/
def faultOf : IO.Error → Disk.Fault
  | .noFileOrDirectory .. | .resourceVanished .. | .noSuchThing .. => .noEntry
  | .alreadyExists .. => .taken
  | .inappropriateType _ code reason =>
    if code = 21 then .isFolder else if code = 20 then .notFolder else .other code.toNat reason
  | .resourceBusy .. => .busy
  | e => .other none (toString e)

/-- An operation of the system with its fault. -/
def attempt {α : Type} (operation : IO α) : IO (Except Disk.Fault α) := do
  try return .ok (← operation)
  catch e => return .error (faultOf e)

/-- An operation of the system succeeds. -/
def succeeds {α : Type} (operation : IO α) : IO Bool := do
  return (← attempt operation).toBool

/-- The read of a whole file. -/
def readOf (path : String) : IO Disk.Read := do
  match ← attempt (IO.FS.readBinFile path) with
  | .ok bytes => return .piece bytes.toList
  | .error fault => return .failed fault

instance : Disk IO where
  isThere path := succeeds (IO.FS.Handle.mk path .read)
  isFolder path := succeeds (IO.FS.Handle.mk (path ++ "/.") .read)
  isSame path other := do
    match ← attempt (IO.FS.realPath path), ← attempt (IO.FS.realPath other) with
    | .ok real, .ok another => return real == another
    | _, _ => return false
  stream path := attempt do
    let _ ← IO.FS.Handle.mk path .read
    return .ofReads [← readOf path]
  createFolder path := attempt (IO.FS.createDir path)
  createFile path := attempt do
    let _ ← IO.FS.Handle.mk path .write
  append path bytes := attempt do
    let handle ← IO.FS.Handle.mk path .append
    handle.write ⟨bytes.toArray⟩
  sync path := attempt do
    (← IO.FS.Handle.mk path .append).flush
  rename source target := attempt (IO.FS.rename source target)
  remove path := attempt (IO.FS.removeFile path)

/-- The folders that the environment names. -/
def foldersOf : IO UserFolders := do
  return ⟨← IO.getEnv "HOME", ← IO.getEnv "XDG_CONFIG_HOME", ← IO.getEnv "XDG_STATE_HOME"⟩

/-- No help, and no completions. -/
def wording : CommandLine.Wording :=
  ⟨fun _ _ => "", fun _ => ""⟩

end SessionReplay.Main

/-- A run of the program, which logs nothing. -/
def main (arguments : List String) : IO UInt32 := do
  let folders ← SessionReplay.Main.foldersOf
  let outcome ← SessionReplay.Program.run SessionReplay.Main.wording folders {} arguments
  (← IO.getStdout).putStr outcome.stdout
  (← IO.getStderr).putStr outcome.stderr
  return outcome.exit.toUInt32
