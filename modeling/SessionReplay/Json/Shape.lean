import SessionReplay.Json.Skip

/-!
# Values of a wanted shape

* `Reader.text`, `Reader.integer`, `Reader.float` — single values;
* `Reader.optional` — a value or the word `null`;
* `Reader.list` — a list of values;
* `Reader.mismatch` — the fault of a value of another shape, which is still read far enough to be
  named.
-/

namespace SessionReplay.Json

namespace Reader

variable {α : Type}

/-- The word that begins with the byte that comes next. -/
def wordAfter (letters : List UInt8) : Reader Unit := do
  skip
  word letters

/-- The value that comes next, as a message names it. -/
def found : Reader Found := do
  match ← peek with
  | none => fail .endInValue
  | some b =>
    if b = 'n'.toUInt8 then do wordAfter (Text.bytes "ull"); return .null
    else if b = 't'.toUInt8 then do wordAfter (Text.bytes "rue"); return .boolean true
    else if b = 'f'.toUInt8 then do wordAfter (Text.bytes "alse"); return .boolean false
    else if b = '-'.toUInt8 ∨ (digit? b).isSome then
      match ← readNumber with
      | .integer value => return .integer value
      | .float value => return .float value
    else if b = '"'.toUInt8 then do skip; return .text (← readText)
    else if b = '['.toUInt8 then return .list
    else if b = '\x7b'.toUInt8 then return .object
    else fail .noValue

/-- The fault of a value that has another shape than the wanted one. -/
def mismatch (wanted : Wanted) : Reader α := do
  fail (.shape (← found) wanted)

/-- A text. -/
def text : Reader String := do
  if (← peek) = some '"'.toUInt8 then
    skip
    readText
  else mismatch .text

/-- A number, if one comes next. -/
def number? : Reader (Option Number) := do
  match ← peek with
  | some b =>
    if b = '-'.toUInt8 ∨ (digit? b).isSome then return some (← readNumber) else return none
  | none => return none

/-- A floating-point number; an integer counts as one. -/
def float : Reader Float := do
  match ← number? with
  | some (.float value) => return value
  | some (.integer value) => return Float.ofInt value
  | none => mismatch .float

/-- An integer of at most 63 bits and a sign. -/
def integer : Reader Int := do
  match ← number? with
  | some (.integer value) =>
    if Word64.fitsSigned value then return value else fail (.integerRange value .integer)
  | some (.float value) => fail (.shape (.float value) .integer)
  | none => mismatch .integer

/-- A value or the word `null`. -/
def optional (p : Reader α) : Reader (Option α) := do
  if (← peek) = some 'n'.toUInt8 then
    wordAfter (Text.bytes "ull")
    return none
  else return some (← p)

/-- A list of values. -/
def list (p : Reader α) : Reader (List α) := do
  if (← peek) = some '['.toUInt8 then
    skip
    Brackets.square.items (fun values => do return values ++ [← p]) []
  else mismatch .list

end Reader

end SessionReplay.Json
