import SessionReplay.Preferences.Basic
import SessionReplay.Word64

/-!
# Commands

* `Overrides` — what is chosen on the command line for one conversion;
* `Shell`, `Command` — the shells that completions are written for, and the commands;
* `Halt` — why a command line runs no command;
* `Overrides.resolve?` — the output file and the settings of a conversion.
-/

namespace SessionReplay

/-- Choices for one conversion; what is not chosen follows the preferences. -/
structure Overrides where
  output : Option String := none
  only : List String := []
  skip : List String := []
  threshold : Option Nat := none
  checks : Option Bool := none
  stopOnFailure : Option Bool := none
  deriving DecidableEq, Repr

/-- A shell. -/
inductive Shell where
  | bash
  | elvish
  | fish
  | powershell
  | zsh
  deriving DecidableEq, Repr

namespace Shell

/-- All shells. -/
def all : List Shell := [bash, elvish, fish, powershell, zsh]

/-- The name of a shell. -/
def name : Shell → String
  | bash => "bash"
  | elvish => "elvish"
  | fish => "fish"
  | powershell => "powershell"
  | zsh => "zsh"

/-- The shell with a name. -/
def ofName? (name : String) : Option Shell :=
  all.find? fun shell => shell.name = name

end Shell

/-- A command: the conversion of a file, or the completions for a shell. -/
inductive Command where
  | convert (path : String) (overrides : Overrides)
  | completions (shell : Shell)
  deriving DecidableEq, Repr

/-- Why a command line runs no command. -/
inductive Halt where
  | help
  | version
  | noCommand
  | unknownCommand
  | unknownArgument
  | missingArgument
  | badValue
  | badNumber
  | repeated
  | surplusValue
  deriving DecidableEq, Repr

namespace Overrides

/-- A list of the command line, or else the preferred one. -/
def listOr (chosen preferred : List String) : List String :=
  if chosen.isEmpty then preferred else chosen

/-- The output file and the settings of a conversion; none if the threshold is too great. -/
def resolve? (o : Overrides) (p : Preferences) : Option (String × Settings) :=
  let preferred := p.settings
  if o.threshold.any fun ms => !Word64.fitsSigned ms then none
  else some (o.output.getD p.output,
    { only := listOr o.only preferred.only
      skip := listOr o.skip preferred.skip
      threshold := (o.threshold.map Int.ofNat).getD preferred.threshold
      checks := o.checks.getD preferred.checks
      stopOnFailure := o.stopOnFailure.getD preferred.stopOnFailure })

end Overrides

end SessionReplay
