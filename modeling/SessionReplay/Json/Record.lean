import SessionReplay.Json.Shape

/-!
# Records

A record is written as an object whose keys are its fields, in any order and among other keys, or
as the list of its fields in the order of their declaration. A field may have a value that stands
for it when it is absent.

* `Field`, `Fields`, `Record` — a field, the fields of a record in a row, and a record;
* `Row`, `Slots` — values for all fields, and for those that are read so far;
* `Record.read` — a record in either form.
-/

namespace SessionReplay.Json

/-- One field of a record: its key, how its value is read, and what stands for it when it is
absent. -/
structure Field (α : Type) where
  key : String
  value : Reader α
  absent : Option α

/-- The fields of a record, in the order of their declaration. -/
inductive Fields : List Type → Type 1 where
  | nil : Fields []
  | cons {α : Type} {αs : List Type} : Field α → Fields αs → Fields (α :: αs)

/-- One value for each field. -/
def Row : List Type → Type
  | [] => Unit
  | α :: αs => α × Row αs

/-- The values of the fields that are read so far. -/
def Slots : List Type → Type
  | [] => Unit
  | α :: αs => Option α × Slots αs

/-- A kind of records. -/
structure Record (αs : List Type) where
  name : String
  fields : Fields αs

namespace Fields

/-- The number of fields. -/
def count {αs : List Type} : Fields αs → Nat
  | nil => 0
  | cons _ fields => fields.count + 1

/-- No field is read yet. -/
def none {αs : List Type} : Fields αs → Slots αs
  | nil => ()
  | cons _ fields => (Option.none, fields.none)

/-- The field with a key: whether it is read already, and how to read it into its slot. No result
means that the key is no field. -/
def find? {αs : List Type} : Fields αs → String → Slots αs → Option (Bool × Reader (Slots αs))
  | nil, _, _ => Option.none
  | cons field fields, key, (slot, slots) =>
    if key = field.key then
      some (slot.isSome, do return (some (← field.value), slots))
    else
      (fields.find? key slots).map fun (taken, value) =>
        (taken, do return (slot, ← value))

/-- The values of all fields; the first one without a value is the fault. -/
def complete {αs : List Type} : Fields αs → Slots αs → Except Fault (Row αs)
  | nil, () => .ok ()
  | cons field fields, (slot, slots) =>
    match slot.or field.absent with
    | Option.none => .error (.missing field.key)
    | some value =>
      match fields.complete slots with
      | .ok row => .ok (value, row)
      | .error fault => .error fault

/-! ## Objects -/

/-- The colon after a key. -/
def colon : Reader Unit := do
  match ← Reader.peek with
  | Option.none => Reader.fail .endInObject
  | some b => if b = ':'.toUInt8 then Reader.skip else Reader.fail .noColon

/-- A key and its value. A field is read into its slot, any other value is passed over. -/
def member {αs : List Type} (fields : Fields αs) (slots : Slots αs) : Reader (Slots αs) := do
  if (← Reader.peek) ≠ some '"'.toUInt8 then Reader.fail .keyNotText
  Reader.skip
  let key ← readText
  match fields.find? key slots with
  | Option.none =>
    colon
    skipValue
    return slots
  | some (true, _) => Reader.fail (.duplicate key)
  | some (false, value) =>
    colon
    value

/-! ## Lists -/

/-- Whether the list has a value for the field with the given place. -/
def hasValue (index : Nat) : Reader Bool :=
  if index = 0 then Brackets.square.hasFirst else Brackets.square.hasNext

/-- The fields from a place on. Once the list has ended, the remaining ones are absent. -/
def inOrder {αs : List Type} (name : String) (total : Nat) :
    Fields αs → Nat → Bool → Reader (Row αs)
  | nil, _, _ => pure ()
  | cons field fields, index, ended => do
    let ended ← if ended then pure true else (fun more => !more) <$> hasValue index
    let value ←
      if ended then
        match field.absent with
        | Option.none => Reader.fail (.tooShort index name total)
        | some value => pure value
      else field.value
    let row ← inOrder name total fields (index + 1) ended
    return (value, row)

/-- The end of the list of fields. -/
def listEnd : Reader Unit := do
  match ← Reader.peek with
  | Option.none => Reader.fail .endInList
  | some b =>
    if b = ']'.toUInt8 then Reader.skip
    else if b = ','.toUInt8 then
      Reader.skip
      Reader.fail (if (← Reader.peek) = some ']'.toUInt8 then .trailingComma else .trailingBytes)
    else Reader.fail .trailingBytes

end Fields

/-- A record, as an object or as a list. -/
def Record.read {αs : List Type} (record : Record αs) : Reader (Row αs) := do
  let fields := record.fields
  let first ← Reader.peek
  if first = some '['.toUInt8 then
    Reader.skip
    let row ← fields.inOrder record.name fields.count 0 false
    Fields.listEnd
    return row
  else if first = some '\x7b'.toUInt8 then
    Reader.skip
    let slots ← Brackets.curly.items fields.member fields.none
    match fields.complete slots with
    | .ok row => return row
    | .error fault => Reader.fail fault
  else Reader.mismatch (.record record.name)

end SessionReplay.Json
