import SessionReplay.Preferences.Load

/-!
# The log

A run logs what it does in a file of its own. It goes on without a log, and no fault of the log
stops it.

* `LogLines` — the lines of a run, by the points at which they are logged;
* `Log`, `Log.start` — the place of the log, if it can be opened;
* `Log.add` — lines at its end;
* `Log.during`, `Log.after` — what is logged of some steps, and of a file that was put in its place.
-/

namespace SessionReplay

/-- The lines that a run logs: once the log is open, once the preferences are loaded, once a session
is read and converted, and once the script is written. They hold the time, and the environment says
which ones are wanted, so that they are any bytes. -/
structure LogLines where
  opened : List (List UInt8) := []
  loaded : List (List UInt8) := []
  converted : List (List UInt8) := []
  written : List (List UInt8) := []
  deriving DecidableEq, Repr

/-- The place of the log. There is none if the log cannot be opened. -/
abbrev Log : Type := Option String

namespace Log

variable {m : Type → Type} [Monad m] [Disk m]

/-- Lines at the end of a file, one after the other. -/
def store (path : String) : List (List UInt8) → m Unit
  | [] => return ()
  | line :: lines => do
    let _ ← (Disk.append path line : m (Except Disk.Fault Unit))
    store path lines

/-- The log of a run, which is created if it is not there, with its first lines. -/
def start (folders : UserFolders) (lines : List (List UInt8)) : m Log := do
  match ← (folders.logFile : Attempt m String).run with
  | .error _ => return none
  | .ok path =>
    match ← (Disk.append path [] : m (Except Disk.Fault Unit)) with
    | .error _ => return none
    | .ok () =>
      store path lines
      return some path

/-- Lines at the end of the log. -/
def add (log : Log) (lines : List (List UInt8)) : m Unit :=
  match log with
  | none => return ()
  | some path => store path lines

/-- Steps, and the lines that are logged behind them, whether or not they succeed. -/
def during {α : Type} (log : Log) (lines : List (List UInt8)) (steps : Attempt m α) :
    Attempt m α :=
  ExceptT.mk do
    let result ← steps.run
    add log lines
    return result

/-- The lines that are logged behind a file that was put in its place. If the log stood there, it
has no place any more, and the lines are lost with it. -/
def after (log : Log) (path : String) (lines : List (List UInt8)) : m Unit :=
  match log with
  | none => return ()
  | some place => do
    if ← Disk.isSame path place then return ()
    else store place lines

end Log

end SessionReplay
