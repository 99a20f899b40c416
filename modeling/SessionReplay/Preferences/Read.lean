import SessionReplay.Preferences.Basic
import SessionReplay.Shape
import SessionReplay.Toml.Read

/-!
# Preferences from a settings file

* `Preferences.Fault`, `Preferences.Fault.message` — why a text is no settings file, and the
  wording;
* `Preferences.read` — the preferences that a settings file writes. Keys that are not known do not
  count; the first fault is reported, and a missing key only if there is no other fault.
-/

namespace SessionReplay

namespace Preferences

open Toml (Value)

/-- Why a text is no settings file. -/
inductive Fault where
  | malformed
  | shape (found : Found) (wanted : Wanted)
  | missing (key : String)

/-- Numbers in messages about settings: all their places are written, and a half goes up. -/
def numbers : Decimal.Notation := ⟨-400, 400, .up, "inf", "NaN"⟩

/-- The wording of a fault, without its line. -/
def Fault.message : Fault → String
  | .malformed => "TOML parse error"
  | .shape found wanted => mismatch numbers found wanted
  | .missing key => missingField key

/-! ## Values -/

/-- A value as a message names it. -/
def found : Value → Found
  | .text content => .text content
  | .integer value => .integer value
  | .float value => .float value
  | .boolean value => .boolean value
  | .list _ | .tables _ => .list
  | .moment | .object _ | .table .. => .object

/-- A text. -/
def text : Value → Except Fault String
  | .text content => .ok content
  | value => .error (.shape (found value) .text)

/-- An integer. -/
def integer : Value → Except Fault Int
  | .integer value => .ok value
  | value => .error (.shape (found value) .integer)

/-- A truth value. -/
def boolean : Value → Except Fault Bool
  | .boolean value => .ok value
  | value => .error (.shape (found value) .boolean)

/-- A list of texts. Tables of one name, of which there is at least one, are no texts. -/
def texts : Value → Except Fault (List String)
  | .list items => items.mapM text
  | .tables _ => .error (.shape .object .text)
  | value => .error (.shape (found value) .list)

/-! ## Keys -/

/-- What is read so far. -/
structure Partial where
  output : Option String := none
  threshold : Option Int := none
  checks : Option Bool := none
  stopOnFailure : Option Bool := none
  only : Option (List String) := none
  skip : Option (List String) := none

/-- One more key. -/
def Partial.add (p : Partial) (entry : String × Value) : Except Fault Partial :=
  match entry.1 with
  | "output" => return { p with output := ← text entry.2 }
  | "batch_threshold_ms" => return { p with threshold := ← integer entry.2 }
  | "enable_status_code_checks" => return { p with checks := ← boolean entry.2 }
  | "return_on_failed_check" => return { p with stopOnFailure := ← boolean entry.2 }
  | "only" => return { p with only := ← texts entry.2 }
  | "skip" => return { p with skip := ← texts entry.2 }
  | _ => return p

/-- A key that must be there. -/
def required {α : Type} (key : String) : Option α → Except Fault α
  | some value => .ok value
  | none => .error (.missing key)

/-- The preferences, once all keys are read. -/
def Partial.complete (p : Partial) : Except Fault Preferences := do
  let output ← required "output" p.output
  let threshold ← required "batch_threshold_ms" p.threshold
  let checks ← required "enable_status_code_checks" p.checks
  return {
    output
    threshold
    checks
    stopOnFailure := p.stopOnFailure.getD false
    only := p.only.getD []
    skip := p.skip.getD [] }

/-- The preferences that a settings file writes. -/
def read (document : String) : Except Fault Preferences :=
  match Toml.read? document with
  | none => .error .malformed
  | some entries => do
    let p ← entries.foldlM Partial.add {}
    p.complete

end Preferences

end SessionReplay
