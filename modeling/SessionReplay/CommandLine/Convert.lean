import SessionReplay.CommandLine.Basic
import SessionReplay.CommandLine.Word
import SessionReplay.Word64

/-!
# Arguments of a conversion

An option takes its value from its own word or from the next one. A value is checked when the next
option or path is read, or at the end, so that an argument that is not known is reported before a
bad value to its left.

* `ValueOption`, `Switch` — the options;
* `Progress` — what is read so far, and what is still to be checked;
* `readConvert` — the conversion that arguments describe.
-/

namespace SessionReplay.CommandLine

/-- An option with a value. -/
inductive ValueOption where
  | output
  | only
  | skip
  | threshold
  deriving DecidableEq, Repr

/-- An option without a value: one of a pair that turns something on or off. -/
inductive Switch where
  | checks (on : Bool)
  | stopOnFailure (on : Bool)
  deriving DecidableEq, Repr

/-- The option with a long name. -/
def ValueOption.ofLong? (name : String) : Option ValueOption :=
  [("output", output), ("only", only), ("skip", skip), ("batch-threshold", threshold)].lookup name

/-- The option with a letter. -/
def ValueOption.ofLetter? (letter : Char) : Option ValueOption :=
  if letter = 'O' then some output else none

/-- The switch with a long name. -/
def Switch.ofLong? (name : String) : Option Switch :=
  [("enable-status-code-checks", checks true), ("no-enable-status-code-checks", checks false),
    ("return-on-failed-check", stopOnFailure true),
    ("no-return-on-failed-check", stopOnFailure false)].lookup name

/-- What is read but not yet checked. -/
inductive Pending where
  | nothing
  | awaiting (option : ValueOption)
  | value (option : ValueOption) (text : String)
  | path (text : String)
  deriving DecidableEq, Repr

/-- What is read so far. -/
structure Progress where
  overrides : Overrides := {}
  path : Option String := none
  pending : Pending := .nothing
  deriving DecidableEq, Repr

/-! ## Values -/

/-- The parts of a text between commas. -/
def commaParts (s : String) : List String :=
  (s.toList.splitOn ',').map String.ofList

/-- A natural number of 64 bits. It may have a plus sign. -/
def number? (s : String) : Option Nat :=
  let digits := match s.toList with
    | '+' :: cs => cs
    | cs => cs
  if digits.isEmpty ∨ digits.any (!·.isDigit) then none
  else
    let n := digits.foldl (fun n c => 10 * n + (c.toNat - 0x30)) 0
    if Word64.fits n then some n else none

/-- An option with its value. Lists grow; the others are given once. -/
def setValue (o : Overrides) (text : String) : ValueOption → Except Halt Overrides
  | .output =>
    if o.output.isSome then .error .repeated
    else if text.isEmpty then .error .badValue
    else .ok { o with output := some text }
  | .only => .ok { o with only := o.only ++ commaParts text }
  | .skip => .ok { o with skip := o.skip ++ commaParts text }
  | .threshold =>
    if o.threshold.isSome then .error .repeated
    else
      match number? text with
      | none => .error .badNumber
      | some n => .ok { o with threshold := some n }

/-- A switch. Of a pair the last one counts, but neither is given twice in a row. -/
def setSwitch (o : Overrides) : Switch → Except Halt Overrides
  | .checks on =>
    if o.checks = some on then .error .repeated else .ok { o with checks := some on }
  | .stopOnFailure on =>
    if o.stopOnFailure = some on then .error .repeated
    else .ok { o with stopOnFailure := some on }

/-! ## Words -/

/-- The check of what is pending. -/
def settle (p : Progress) : Except Halt Progress :=
  match p.pending with
  | .nothing => .ok p
  | .awaiting _ => .error .badValue
  | .value option text => do
    let overrides ← setValue p.overrides text option
    return { p with overrides, pending := .nothing }
  | .path text =>
    if text.isEmpty then .error .badValue
    else .ok { p with path := some text, pending := .nothing }

/-- An option with a value. -/
def addOption (p : Progress) (option : ValueOption) (value : Option String) :
    Except Halt Progress := do
  let p ← settle p
  match value with
  | none => return { p with pending := .awaiting option }
  | some text =>
    let overrides ← setValue p.overrides text option
    return { p with overrides }

/-- An option that takes no value, and what it does once all before it is checked. -/
def addWithoutValue (p : Progress) (value : Option String) (act : Progress → Except Halt Progress) :
    Except Halt Progress :=
  if value.isSome then .error .surplusValue else settle p >>= act

/-- A long option. -/
def addLong (p : Progress) (name : String) (value : Option String) : Except Halt Progress :=
  match ValueOption.ofLong? name, Switch.ofLong? name with
  | some option, _ => addOption p option value
  | none, some switch =>
    addWithoutValue p value fun p => do
      return { p with overrides := ← setSwitch p.overrides switch }
  | none, none =>
    if name = "help" then addWithoutValue p value fun _ => .error .help
    else .error .unknownArgument

/-- A short option. -/
def addShort (p : Progress) (letter : Char) (value : Option String) : Except Halt Progress :=
  match ValueOption.ofLetter? letter with
  | some option => addOption p option value
  | none => if letter = 'h' then settle p >>= fun _ => .error .help else .error .unknownArgument

/-- The path. There is only one. -/
def addPath (p : Progress) (text : String) : Except Halt Progress :=
  let given := match p.pending with
    | .path _ => true
    | _ => p.path.isSome
  if given then .error .unknownArgument
  else do return { (← settle p) with pending := .path text }

/-- A plain word: the value that an option awaits, or the path. -/
def addPlain (p : Progress) (text : String) : Except Halt Progress :=
  match p.pending with
  | .awaiting option => .ok { p with pending := .value option text }
  | _ => addPath p text

/-- All arguments from a place on. After the end of the options all of them are plain. -/
def addArguments : (optionsEnded : Bool) → Progress → List String → Except Halt Progress
  | _, p, [] => settle p
  | true, p, argument :: rest => do addArguments true (← addPath p argument) rest
  | false, p, argument :: rest =>
    match Word.ofString argument with
    | .endOfOptions => addArguments true p rest
    | .long name value => do addArguments false (← addLong p name value) rest
    | .short letter value => do addArguments false (← addShort p letter value) rest
    | .plain text => do addArguments false (← addPlain p text) rest

/-- The conversion that arguments describe. -/
def readConvert (arguments : List String) : Except Halt Command := do
  let p ← addArguments false {} arguments
  match p.path with
  | none => throw .missingArgument
  | some path => return .convert path p.overrides

end SessionReplay.CommandLine
