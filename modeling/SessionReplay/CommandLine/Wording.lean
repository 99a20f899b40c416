import SessionReplay.CommandLine.Basic

/-!
# Texts about the command line

* `programName`, `versionText` — the name of the program, and its version;
* `Wording` — the texts that the program prints but does not word itself.
-/

namespace SessionReplay.CommandLine

/-- The name of the program. -/
def programName : String := "har2k6"

/-- The name and the version of the program. -/
def versionText : String := programName ++ " 0.1.0"

/-- What a general reader of command lines words for every program: help, what is wrong with some
arguments, and the completions of a shell. -/
structure Wording where
  halt : (arguments : List String) → Halt → String
  completions : Shell → String

end SessionReplay.CommandLine
