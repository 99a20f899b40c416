import SessionReplay.Disk.Basic
import SessionReplay.Problem

/-!
# Script files

A script is first written under another name and then put in its place in one step, so that its
place never holds half a script.

* `ScriptFile.temporary` — the other name;
* `ScriptFile.write` — a script under its name; what is left of a failed attempt is taken away.
-/

namespace SessionReplay.ScriptFile

variable {m : Type → Type} [Monad m] [Disk m]

/-- The name under which a file is written before it is put in its place. -/
def temporary (path : String) : String :=
  path ++ ".part"

/-- A script under its temporary name, and then in its place. -/
def writeAndRename (path script : String) : Attempt m Unit := do
  let part := temporary path
  Attempt.file (.create part) (Disk.createFile part)
  Attempt.file (.write part) (Disk.append part (Text.bytes script))
  Attempt.file (.sync part) (Disk.sync part)
  Attempt.file (.rename part path) (Disk.rename part path)

/-- A script in its place. -/
def write (path script : String) : Attempt m Unit :=
  tryCatch (writeAndRename path script) fun problem => do
    let _ ← (Disk.remove (temporary path) : m (Except Disk.Fault Unit))
    throw problem

end SessionReplay.ScriptFile
