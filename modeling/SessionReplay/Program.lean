import SessionReplay.CaptureFile
import SessionReplay.CommandLine.Read
import SessionReplay.CommandLine.Wording
import SessionReplay.Log
import SessionReplay.ScriptFile

/-!
# The program

* `Program.convert` — the conversion of a file into a script file;
* `Outcome` — what a run leaves behind besides files;
* `Program.run` — a run of the program.
-/

namespace SessionReplay

/-- What a run tells: its exit code and the texts that it prints, without what it logs. -/
structure Outcome where
  exit : Nat
  stdout : String
  stderr : String
  deriving DecidableEq, Repr

namespace Program

open CommandLine (Wording)

variable {m : Type → Type} [Monad m] [Disk m]

/-- A conversion: the place of the script that it writes. -/
def convert (folders : UserFolders) (log : Log) (lines : LogLines) (path : String)
    (overrides : Overrides) : Attempt m String := do
  let preferences ← log.during lines.loaded (Preferences.loadOrDefault folders)
  match overrides.resolve? preferences with
  | none => throw .threshold
  | some (output, settings) =>
    let script ← log.during lines.converted (CaptureFile.convert path settings)
    ScriptFile.write output script
    (log.after output lines.written : m Unit)
    return output

/-- What is told of a conversion. -/
def told : Except Problem String → Outcome
  | .ok output => ⟨0, "Wrote k6 script to " ++ output ++ "\n", ""⟩
  | .error problem => ⟨1, "", CommandLine.programName ++ " error: " ++ problem.text ++ "\n"⟩

/-- What is told where no command is run. -/
def halted (wording : Wording) (arguments : List String) : Halt → Outcome
  | .help => ⟨0, wording.halt arguments .help, ""⟩
  | .version => ⟨0, CommandLine.versionText ++ "\n", ""⟩
  | halt => ⟨2, "", wording.halt arguments halt⟩

/-- A run with the arguments that follow the name of the program. -/
def run (wording : Wording) (folders : UserFolders) (lines : LogLines) (arguments : List String) :
    m Outcome := do
  let log ← Log.start folders lines.opened
  match CommandLine.readArguments arguments with
  | .error halt => return halted wording arguments halt
  | .ok (.completions shell) => return ⟨0, wording.completions shell, ""⟩
  | .ok (.convert path overrides) =>
    return told (← (convert folders log lines path overrides : Attempt m String).run)

end Program

end SessionReplay
