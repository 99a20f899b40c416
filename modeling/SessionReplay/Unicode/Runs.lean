import SessionReplay.Text.Digit

/-!
# Properties of characters as sorted runs

A property of characters is written as a text of runs: `first-last:value`, the two ends in
hexadecimal, separated by blanks and in increasing order. A run of one character is `first:value`,
and `:value` is left out where membership is all that counts.

* `Run`, `Runs` — one run, and a property as an array of them;
* `Runs.read` — the runs of such a text;
* `Runs.find?` — the run that holds a character, by bisection.
-/

namespace SessionReplay.Unicode

/-- Consecutive characters that share a value. -/
structure Run (α : Type) where
  first : Nat
  last : Nat
  value : α
  deriving Inhabited

/-- The runs of a property, in increasing order. -/
abbrev Runs (α : Type) : Type := Array (Run α)

/-- The number that hexadecimal digits write. -/
def hexNumber (s : String) : Nat :=
  s.toList.foldl (fun n c => 16 * n + (Text.hexValue? c.toNat).getD 0) 0

/-- The numbers of a list such as `41.300`; none for the empty text. -/
def hexNumbers (s : String) : List Nat :=
  if s.isEmpty then [] else (s.splitOn ".").map hexNumber

/-- The run that one word of a table writes; `value` reads what follows the colon, if there is
one. -/
def Run.read {α : Type} (value : Option String → α) (word : String) : Run α :=
  let (ends, rest) :=
    match word.splitOn ":" with
    | [ends, rest] => (ends, some rest)
    | _ => (word, none)
  match ends.splitOn "-" with
  | [first, last] => ⟨hexNumber first, hexNumber last, value rest⟩
  | _ => ⟨hexNumber ends, hexNumber ends, value rest⟩

/-- The words of a table, which stand between spaces and line ends. -/
def words (text : String) : List String :=
  ((text.splitOn "\n").flatMap (·.splitOn " ")).filter fun word => !word.isEmpty

/-- The runs of a table. -/
def Runs.read {α : Type} (value : Option String → α) (text : String) : Runs α :=
  ((words text).map (Run.read value)).toArray

/-- Bisection between the positions `low` and `high`, in at most `steps` halvings. -/
def Runs.search {α : Type} (runs : Runs α) (n : Nat) : Nat → Nat → Nat → Option (Run α)
  | 0, _, _ => none
  | steps + 1, low, high =>
    if low < high then
      let middle := (low + high) / 2
      match runs[middle]? with
      | none => none
      | some run =>
        if n < run.first then Runs.search runs n steps low middle
        else if run.last < n then Runs.search runs n steps (middle + 1) high
        else some run
    else none

/-- The run that holds the character with number `n`. -/
def Runs.find? {α : Type} (runs : Runs α) (n : Nat) : Option (Run α) :=
  runs.search n (runs.size + 1) 0 runs.size

/-- Membership of a character in a property. -/
def Runs.holds {α : Type} (runs : Runs α) (c : Char) : Bool :=
  (runs.find? c.toNat).isSome

end SessionReplay.Unicode
