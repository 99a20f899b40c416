import SessionReplay.Decimal.Notation
import SessionReplay.Text.Quoted

/-!
# Shapes of values

Documents of both kinds are read for values of certain shapes. A message about a value of another
shape names what was found and what was wanted.

* `Found`, `Wanted` — a value as a message names it, and a shape;
* `Found.message`, `Wanted.message`, `mismatch` — the wording.
-/

namespace SessionReplay

/-- A value as a message names it. -/
inductive Found where
  | null
  | boolean (value : Bool)
  | integer (value : Int)
  | float (value : Float)
  | text (value : String)
  | list
  | object

/-- The shape that a place of a document wants. -/
inductive Wanted where
  | text
  | list
  | float
  | integer
  | boolean
  | record (name : String)
  deriving DecidableEq, Repr

/-- The name of a value; `numbers` is how floating-point numbers are written. -/
def Found.message (numbers : Decimal.Notation) : Found → String
  | .null => "null"
  | .boolean value => "boolean `" ++ toString value ++ "`"
  | .integer value => "integer `" ++ toString value ++ "`"
  | .float value => "floating point `" ++ numbers.text value ++ "`"
  | .text value => "string " ++ Text.quoted value
  | .list => "sequence"
  | .object => "map"

/-- The name of a shape. -/
def Wanted.message : Wanted → String
  | .text => "a string"
  | .list => "a sequence"
  | .float => "f64"
  | .integer => "i64"
  | .boolean => "a boolean"
  | .record name => "struct " ++ name

/-- The wording for a value of another shape than the wanted one. -/
def mismatch (numbers : Decimal.Notation) (found : Found) (wanted : Wanted) : String :=
  "invalid type: " ++ found.message numbers ++ ", expected " ++ wanted.message

/-- The wording for a field that is not there. -/
def missingField (key : String) : String :=
  "missing field `" ++ key ++ "`"

end SessionReplay
