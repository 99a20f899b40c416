/-!
# Values of settings files

* `Value` — a value of a settings file, with how each of its tables came about;
* `Entries` — the keys of a table and their values, in the order of their first appearance;
* `Entries.addKey?`, `Entries.within?` — a value under a dotted key, and a change of a table that a
  header names.
-/

namespace SessionReplay.Toml

/-- How a table came about: by its own header, by the header of a table within it, or by a dotted
key. -/
inductive Origin where
  | header
  | implied
  | dotted
  deriving DecidableEq, Repr

/-- A value of a settings file. An object stands in braces and is closed; a table may be written in
several places. -/
inductive Value where
  | text (content : String)
  | integer (value : Int)
  | float (value : Float)
  | boolean (value : Bool)
  | moment
  | list (items : List Value)
  | object (entries : List (String × Value))
  | table (origin : Origin) (entries : List (String × Value))
  | tables (items : List (List (String × Value)))

/-- The keys of a table and their values. -/
abbrev Entries : Type := List (String × Value)

namespace Entries

/-- Another value for a key that is there. -/
def replace (entries : Entries) (key : String) (value : Value) : Entries :=
  entries.map fun entry => if entry.1 = key then (key, value) else entry

/-- Without a key. -/
def remove (entries : Entries) (key : String) : Entries :=
  entries.filter fun entry => entry.1 ≠ key

/-- With a new key at the end. -/
def push (entries : Entries) (key : String) (value : Value) : Entries :=
  entries ++ [(key, value)]

/-- A value under a dotted key. Each key is given one value; the tables on the way to it have no
header of their own, and the last one was opened by a dotted key, unless it is the table in which
the dotted key stands (`isOpen`). -/
def addKey? (value : Value) : List String → (isOpen : Bool) → Entries → Option Entries
  | [], _, _ => none
  | [key], isOpen, entries =>
    if isOpen ∧ (entries.lookup key).isNone then some (entries.push key value) else none
  | key :: path, _, entries =>
    match entries.lookup key with
    | none => do
      let inner ← addKey? value path true []
      return entries.push key (.table .dotted inner)
    | some (.table origin inner) =>
      if origin = .header then none
      else do
        let inner ← addKey? value path (origin = .dotted) inner
        return entries.replace key (.table origin inner)
    | some (.tables items) =>
      match items.getLast? with
      | none => none
      | some inner => do
        let inner ← addKey? value path false inner
        return entries.replace key (.tables (items.dropLast ++ [inner]))
    | some _ => none

/-- A change of the table that a header names, counted from a table. Tables on the way to it are
implied if they are not there yet; of several tables of one name the last one counts. -/
def within? (change : Entries → Option Entries) : List String → Entries → Option Entries
  | [], entries => change entries
  | key :: path, entries =>
    match entries.lookup key with
    | none => do
      let inner ← within? change path []
      return entries.push key (.table .implied inner)
    | some (.table origin inner) => do
      let inner ← within? change path inner
      return entries.replace key (.table origin inner)
    | some (.tables items) =>
      match items.getLast? with
      | none => none
      | some inner => do
        let inner ← within? change path inner
        return entries.replace key (.tables (items.dropLast ++ [inner]))
    | some _ => none

end Entries

end SessionReplay.Toml
