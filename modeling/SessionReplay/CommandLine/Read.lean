import SessionReplay.CommandLine.Convert

/-!
# Reading the command line

* `readCompletions` — the arguments of the command that writes completions;
* `readArguments` — the command that arguments describe;
* `readCommandLine` — the same with the name of the program in front.
-/

namespace SessionReplay.CommandLine

/-! ## Completions -/

/-- The shell of which the name is read. -/
def settleShell : Option String → Except Halt (Option Shell)
  | none => .ok none
  | some name =>
    match Shell.ofName? name with
    | some shell => .ok (some shell)
    | none => .error .badValue

/-- The name of a shell. There is only one. -/
def addShell (pending : Option String) (name : String) : Except Halt String :=
  if pending.isSome then .error .unknownArgument else .ok name

/-- Help is asked for after the name of a shell, if there is one. -/
def helpAfter (pending : Option String) : Except Halt (Option Shell) := do
  let _ ← settleShell pending
  throw .help

/-- The shell that arguments name. -/
def readShell : (optionsEnded : Bool) → Option String → List String → Except Halt (Option Shell)
  | _, pending, [] => settleShell pending
  | true, pending, argument :: rest => do readShell true (some (← addShell pending argument)) rest
  | false, pending, argument :: rest =>
    match Word.ofString argument with
    | .endOfOptions => readShell true pending rest
    | .long "help" none => helpAfter pending
    | .long "help" (some _) => .error .surplusValue
    | .short 'h' _ => helpAfter pending
    | .long .. | .short .. => .error .unknownArgument
    | .plain name => do readShell false (some (← addShell pending name)) rest

/-- The command that writes completions. -/
def readCompletions (arguments : List String) : Except Halt Command := do
  match ← readShell false none arguments with
  | some shell => return .completions shell
  | none => throw .missingArgument

/-! ## Commands -/

/-- The names of the commands. -/
def commandNames : List String := ["convert", "completions", "help"]

/-- Help on a command. -/
def readHelp : List String → Halt
  | [] => .help
  | [name] => if commandNames.contains name then .help else .unknownCommand
  | _ => .unknownCommand

/-- A first argument after the end of the options. A command is not looked for there. -/
def readAfterEnd : List String → Halt
  | [] => .noCommand
  | name :: _ => if commandNames.contains name then .unknownArgument else .unknownCommand

/-- The command that arguments describe. -/
def readArguments : List String → Except Halt Command
  | [] => .error .noCommand
  | argument :: rest =>
    match Word.ofString argument with
    | .plain "convert" => readConvert rest
    | .plain "completions" => readCompletions rest
    | .plain "help" => .error (readHelp rest)
    | .plain _ => .error .unknownCommand
    | .endOfOptions => .error (readAfterEnd rest)
    | .long "help" none | .short 'h' _ => .error .help
    | .long "version" none | .short 'V' _ => .error .version
    | .long "help" (some _) | .long "version" (some _) => .error .surplusValue
    | .long .. | .short .. => .error .unknownArgument

/-- The command of a command line, which begins with the name of the program. -/
def readCommandLine (words : List String) : Except Halt Command :=
  readArguments (words.drop 1)

end SessionReplay.CommandLine
