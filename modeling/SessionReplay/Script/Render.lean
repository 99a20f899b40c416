import SessionReplay.Script.Basic
import SessionReplay.Script.Literal

/-!
# Texts of scripts

* `Line` — a line with its indentation;
* `Script.lines`, `Script.text` — the lines of a script, and its text.
-/

namespace SessionReplay.Script

open Capture (NamedValue)

/-- A line and how far it is indented. -/
structure Line where
  depth : Nat
  content : String
  deriving DecidableEq, Repr

/-- The text of a line: four spaces for each step of indentation. -/
def Line.text (line : Line) : String :=
  String.ofList (List.replicate (4 * line.depth) ' ') ++ line.content ++ "\n"

/-- An empty line. -/
def Line.blank : Line := ⟨0, ""⟩

/-- A line comment. -/
def noteLine (depth : Nat) (note : String) : Line := ⟨depth, "// " ++ note⟩

/-! ## Calls -/

/-- A property whose value is a text. -/
def propertyLine (depth : Nat) (name value : String) : Line :=
  ⟨depth, Literal.text name ++ ": " ++ Literal.text value ++ ","⟩

/-- An object of texts under a name. -/
def objectLines (depth : Nat) (name : String) (fields : List (String × String)) : List Line :=
  [⟨depth, name ++ ": \x7b"⟩] ++ fields.map (fun (n, v) => propertyLine (depth + 1) n v) ++
    [⟨depth, "\x7d,"⟩]

/-- An object of named values, if there are any. -/
def namedLines (depth : Nat) (name : String) (values : List NamedValue) : List Line :=
  if values.isEmpty then [] else objectLines depth name (values.map fun v => (v.name, v.value))

/-- A body. -/
def payloadLines : Payload → List Line
  | .absent => []
  | .text content => [⟨3, "body: " ++ Literal.text content ++ ","⟩]
  | .form fields => objectLines 3 "body" fields
  | .note content => [noteLine 3 ("body omitted: " ++ content)]

/-- The cookies and headers of a call. -/
def paramLines (call : Call) : List Line :=
  if call.cookies.isEmpty ∧ call.headers.isEmpty then []
  else
    [⟨3, "params: \x7b"⟩] ++ namedLines 4 "cookies" call.cookies ++
      namedLines 4 "headers" call.headers ++ [⟨3, "\x7d,"⟩]

/-- A call. -/
def callLines (call : Call) : List Line :=
  [⟨2, "\x7b"⟩, ⟨3, "method: " ++ Literal.text call.method ++ ","⟩,
    ⟨3, "url: " ++ Literal.text call.url ++ ","⟩] ++
    payloadLines call.payload ++ paramLines call ++ [⟨2, "\x7d,"⟩]

/-! ## Steps -/

/-- Milliseconds as seconds with three places. -/
def seconds (milliseconds : Nat) : String :=
  let fraction := toString (milliseconds % 1000)
  toString (milliseconds / 1000) ++ "." ++
    String.ofList (List.replicate (3 - fraction.length) '0') ++ fraction

/-- A check as an expression. -/
def checkText (check : Check) : String :=
  "check(res[" ++ toString check.place ++ "], \x7b " ++
    Literal.text ("status is " ++ toString check.status) ++ ": (r) => r.status === " ++
    toString check.status ++ " \x7d)"

/-- A check as a statement. -/
def checkLine (stops : Bool) (check : Check) : Line :=
  if stops then ⟨1, "if (!" ++ checkText check ++ ") \x7b return; \x7d"⟩
  else ⟨1, checkText check ++ ";"⟩

/-- A step. -/
def stepLines (stops : Bool) (step : Step) : List Line :=
  (step.pause.map fun pause => (⟨1, "sleep(" ++ seconds pause ++ ");"⟩ : Line)).toList ++
    [⟨1, "req = ["⟩] ++ step.calls.flatMap callLines ++
    [⟨1, "];"⟩, ⟨1, "res = http.batch(req);"⟩] ++ step.checks.map (checkLine stops)

/-! ## Whole scripts -/

/-- The imports. -/
def importLines (checked : Bool) : List Line :=
  [⟨0, if checked then "import \x7b check, sleep \x7d from \"k6\";"
      else "import \x7b sleep \x7d from \"k6\";"⟩,
    ⟨0, "import http from \"k6/http\";"⟩, Line.blank]

/-- The notes. -/
def noteLines (notes : List String) : List Line :=
  if notes.isEmpty then [] else notes.map (noteLine 0) ++ [Line.blank]

/-- The options, under which no redirection is followed. -/
def optionLines : List Line :=
  [⟨0, "export let options = \x7b"⟩, ⟨1, "maxRedirects: 0,"⟩, ⟨0, "\x7d;"⟩, Line.blank]

/-- The entry point. -/
def runLines (stops : Bool) (steps : List Step) : List Line :=
  [⟨0, "export default function() \x7b"⟩] ++
    (if steps.isEmpty then [] else [⟨1, "let req, res;"⟩]) ++
    steps.flatMap (stepLines stops) ++ [⟨0, "\x7d"⟩]

/-- The lines of a script. -/
def lines (script : Script) : List Line :=
  importLines script.checked ++ noteLines script.notes ++ optionLines ++
    runLines script.stops script.steps

/-- The text of a script. -/
def text (script : Script) : String :=
  String.join (script.lines.map Line.text)

end SessionReplay.Script
