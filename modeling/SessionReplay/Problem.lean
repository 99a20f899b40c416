import SessionReplay.Capture.Decode
import SessionReplay.Conversion
import SessionReplay.Preferences.Read

/-!
# Problems of a run

* `Problem` — why a run of the program stops: what it was doing, and the cause;
* `Problem.chain`, `Problem.text` — what it was doing with all causes behind it, and the message to
  the user;
* `Attempt` — steps of a run that may stop.
-/

namespace SessionReplay

/-- What is done with a file. -/
inductive FileTask where
  | place
  | create (path : String)
  | write (path : String)
  | read (path : String)
  | open (path : String)
  | sync (path : String)
  | rename (source target : String)
  deriving DecidableEq, Repr

/-- Why a run stops. -/
inductive Problem where
  | file (task : FileTask) (fault : Disk.Fault)
  | preferences (path : String) (fault : Preferences.Fault)
  | decode (path : String) (error : Capture.DecodeError)
  | convert (error : ConversionError)
  | threshold

/-- The name of a task, if it has one. -/
def FileTask.message? : FileTask → Option String
  | .place => none
  | .create path => some ("create " ++ path)
  | .write path => some ("write " ++ path)
  | .read path => some ("read " ++ path)
  | .open path => some ("open " ++ path)
  | .sync path => some ("sync " ++ path)
  | .rename source target => some ("failed to rename " ++ source ++ " to " ++ target)

/-- The cause behind a decoding error, which its message ends with. -/
def causeOf : Capture.DecodeError → Option String
  | .document fault => some fault.message
  | .stream fault => some fault.message
  | .entry .. => none

namespace Problem

/-- What was being done, and the causes from the outermost to the innermost one. The lines of a
settings file that come with its fault are left out. -/
def chain : Problem → List String
  | file task fault => task.message?.toList ++ [fault.message]
  | preferences path fault => ["parse " ++ path, fault.message]
  | decode path error => ["decode HAR file: " ++ path, error.message] ++ (causeOf error).toList
  | convert error => ["convert HAR to k6 script", error.message]
  | threshold => ["--batch-threshold is too large", "number too large to fit in target type"]

/-- The message to the user. -/
def text (p : Problem) : String :=
  ": ".intercalate p.chain

end Problem

/-- Steps that may stop. -/
abbrev Attempt (m : Type → Type) : Type → Type := ExceptT Problem m

namespace Attempt

variable {m : Type → Type} {α : Type} [Monad m]

/-- A file operation. -/
def file (task : FileTask) (operation : m (Except Disk.Fault α)) : Attempt m α := do
  match ← (operation : m (Except Disk.Fault α)) with
  | .ok a => return a
  | .error fault => throw (.file task fault)

/-- A computation that may fail. -/
def ofExcept {ε : Type} (problem : ε → Problem) (result : Except ε α) : Attempt m α :=
  match result with
  | .ok a => return a
  | .error e => throw (problem e)

end Attempt

end SessionReplay
