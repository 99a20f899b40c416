import SessionReplay.Toml.Number
import SessionReplay.Toml.Text

/-!
# Reading settings files

A settings file is a sequence of lines: keys with their values, and headers, each of which names
the table that the keys after it belong to.

* `value` — a value; lists and objects may be nested up to a limit;
* `Section` — a header and the keys after it;
* `read?` — the keys of a settings file.
-/

namespace SessionReplay.Toml

/-- A key, dotted or not, and its value. -/
structure Pair where
  path : List String
  value : Value

/-- All keys of an object or of a section. -/
def addPairs? : List Pair → Entries → Option Entries
  | [], entries => some entries
  | pair :: pairs, entries => do
    let entries ← entries.addKey? pair.value pair.path true
    addPairs? pairs entries

namespace Scan

/-! ## Keys -/

/-- A character of a key without quotes. -/
def isKeyCharacter (c : Char) : Bool :=
  c.isAlphanum || c == '_' || c == '-'

/-- One part of a key. -/
def keyPart : Scan String := do
  match ← takeWhile isKeyCharacter with
  | [] => lineText
  | name => return String.ofList name

/-- The greatest depth of keys, lists and objects. -/
def maxDepth : Nat := 79

/-- The parts of a dotted key, of which there are at most as many as the argument says. -/
def keyParts : Nat → Scan (List String)
  | 0 => failure
  | steps + 1 => do
    blanks
    let part ← keyPart
    blanks
    if (← peek) = some '.' then
      sign '.'
      return part :: (← keyParts steps)
    else return [part]

/-- A key. -/
def key : Scan (List String) :=
  keyParts maxDepth

/-! ## Values -/

/-- A word that is a value. -/
def boolean : Scan Value :=
  (do word "true"; return .boolean true) <|> (do word "false"; return .boolean false)

/-- A value that holds no others. -/
def scalar : Scan Value := do
  match ← peek with
  | some '"' | some '\'' => return .text (← text)
  | some 't' | some 'f' => boolean
  | _ => number

/-- An object of pairs. -/
def objectOf (pairs : List Pair) : Scan Value :=
  Value.object <$> addPairs? pairs []

mutual

/-- A value. The first argument bounds the number of steps, the second one the depth. -/
def valueIn : Nat → Nat → Scan Value
  | 0, _ => failure
  | steps + 1, depth => do
    match ← peek with
    | some '[' =>
      sign '['
      if depth = 0 then failure
      return .list (← itemsIn steps (depth - 1))
    | some '\x7b' =>
      sign '\x7b'
      if depth = 0 then failure
      blanks
      if (← peek) = some '\x7d' then
        sign '\x7d'
        objectOf []
      else objectOf (← pairsIn steps (depth - 1))
    | _ => scalar

/-- The items of a list, up to its closing bracket. A comma may follow the last one. -/
def itemsIn : Nat → Nat → Scan (List Value)
  | 0, _ => failure
  | steps + 1, depth => do
    spacing
    if (← peek) = some ']' then
      sign ']'
      return []
    let item ← valueIn steps depth
    spacing
    let c ← next
    if c = ',' then return item :: (← itemsIn steps depth)
    else if c = ']' then return [item]
    else failure

/-- The pairs of an object, up to its closing brace. -/
def pairsIn : Nat → Nat → Scan (List Pair)
  | 0, _ => failure
  | steps + 1, depth => do
    let path ← key
    sign '='
    blanks
    let value ← valueIn steps depth
    blanks
    let c ← next
    if c = ',' then return ⟨path, value⟩ :: (← pairsIn steps depth)
    else if c = '\x7d' then return [⟨path, value⟩]
    else failure

end

/-- A value. -/
def value : Scan Value := do
  valueIn (2 * (← get).length + 2) maxDepth

end Scan

/-! ## Lines -/

/-- A header: of a table, or of one more table in a list of tables. -/
inductive Header where
  | table (path : List String)
  | item (path : List String)
  deriving DecidableEq, Repr

/-- A line that says something. -/
inductive Line where
  | pair (pair : Pair)
  | header (header : Header)

namespace Scan

/-- A header in its brackets. -/
def header : Scan Header := do
  sign '['
  if (← peek) = some '[' then
    sign '['
    let path ← key
    word "]]"
    return .item path
  else
    let path ← key
    sign ']'
    return .table path

/-- A key and its value. -/
def pair : Scan Pair := do
  let path ← key
  sign '='
  blanks
  return ⟨path, ← value⟩

/-- A line; it may say nothing. -/
def line : Scan (Option Line) := do
  blanks
  match ← peek with
  | none | some '#' | some '\n' | some '\r' =>
    lineEnd
    return none
  | some '[' =>
    let header ← header
    lineEnd
    return some (.header header)
  | _ =>
    let pair ← pair
    lineEnd
    return some (.pair pair)

/-- All lines, of which there are at most as many as the argument says. -/
def lines : Nat → Scan (List Line)
  | 0 => failure
  | steps + 1 => do
    if (← get).isEmpty then return []
    match ← line with
    | some line => return line :: (← lines steps)
    | none => lines steps

end Scan

/-! ## Sections -/

/-- A header and the keys after it. -/
structure Section where
  header : Header
  pairs : List Pair

/-- The keys before the first header, and the sections. -/
def sections : List Line → List Pair × List Section
  | [] => ([], [])
  | line :: lines =>
    let (pairs, rest) := sections lines
    match line with
    | .pair pair => (pair :: pairs, rest)
    | .header header => ([], ⟨header, pairs⟩ :: rest)

/-- The table that a header opens. A table that was only implied is opened once more. -/
def openTable? (key : String) (pairs : List Pair) (entries : Entries) : Option Entries :=
  match entries.lookup key with
  | none => do return entries.push key (.table .header (← addPairs? pairs []))
  | some (.table .implied inner) => do
    return (entries.remove key).push key (.table .header (← addPairs? pairs inner))
  | some _ => none

/-- One more table in a list of tables. -/
def openItem? (key : String) (pairs : List Pair) (entries : Entries) : Option Entries :=
  match entries.lookup key with
  | none => do return entries.push key (.tables [← addPairs? pairs []])
  | some (.tables items) => do
    return entries.replace key (.tables (items ++ [← addPairs? pairs []]))
  | some _ => none

/-- The last part of a path and those before it. -/
def splitLast? : List String → Option (List String × String)
  | [] => none
  | path => path.getLast?.map fun key => (path.dropLast, key)

/-- One more section. -/
def addSection? (entries : Entries) (s : Section) : Option Entries :=
  match s.header with
  | .table path => do
    let (parents, key) ← splitLast? path
    entries.within? (openTable? key s.pairs) parents
  | .item path => do
    let (parents, key) ← splitLast? path
    entries.within? (openItem? key s.pairs) parents

/-- The keys of all lines. -/
def entries? (lines : List Line) : Option Entries := do
  let (pairs, rest) := sections lines
  rest.foldlM addSection? (← addPairs? pairs [])

/-- The characters without the mark that may begin a file. -/
def withoutMark : List Char → List Char
  | '\uFEFF' :: cs => cs
  | cs => cs

/-- The keys of a settings file. -/
def read? (text : String) : Option Entries := do
  let cs := withoutMark text.toList
  let (lines, _) ← (Scan.lines (cs.length + 1)).run cs
  entries? lines

end SessionReplay.Toml
