import SessionReplay.Json.Reader
import SessionReplay.Text.Digit
import SessionReplay.Word64

/-!
# Numbers in documents

* `Literal` — a number as it is written, digit by digit;
* `Literal.scan` — the literal at the front of some bytes;
* `Number` — what a literal stands for: an integer as long as it fits the machine, or a
  floating-point number;
* `Literal.number` — the number of a literal. Of the digits only as many count as a machine word
  holds, and the power of ten is applied last.
-/

namespace SessionReplay.Json

/-- The value of a byte that is a decimal digit. -/
def digit? (b : UInt8) : Option Nat :=
  Text.decimalValue? b.toNat

/-- The digits at the front of some bytes, and the rest. -/
def scanDigits : List UInt8 → List Nat × List UInt8
  | [] => ([], [])
  | b :: rest =>
    match digit? b with
    | some d => ((scanDigits rest).1.cons d, (scanDigits rest).2)
    | none => ([], b :: rest)

theorem scanDigits_length (s : List UInt8) : (scanDigits s).2.length ≤ s.length := by
  induction s with
  | nil => exact Nat.le_refl _
  | cons b rest ih =>
    unfold scanDigits
    split
    · exact Nat.le_trans ih (Nat.le_succ _)
    · exact Nat.le_refl _

/-- A number as it is written. The exponent has a sign, `true` for minus. -/
structure Literal where
  negative : Bool
  whole : List Nat
  fraction : List Nat
  exponent : Option (Bool × List Nat)
  deriving DecidableEq, Repr

/-! ## Scanning -/

/-- The digits at the front, if there are any. -/
def manyDigits : Reader (List Nat) :=
  ⟨fun s => .ok (scanDigits s), by
    intro s a r h
    injection h with h
    have := scanDigits_length s
    rw [h] at this
    exact this⟩

/-- The next byte, which stays, even if it is white space. -/
def front : Reader (Option UInt8) :=
  ⟨fun s => .ok (s.head?, s), by intro s a r h; cases h; exact Nat.le_refl _⟩

/-- One digit. `atEnd` is the fault of bytes that end before it. -/
def oneDigit (atEnd : Fault) : Reader Nat := do
  match ← front with
  | none => Reader.fail atEnd
  | some b =>
    match digit? b with
    | none => Reader.fail .number
    | some d =>
      Reader.skip
      return d

/-- One or more digits. -/
def someDigits (atEnd : Fault) : Reader (List Nat) := do
  let first ← oneDigit atEnd
  return first :: (← manyDigits)

/-- The digits before the point, from the digit `first` on. No digit follows a zero that comes
first. -/
def wholeDigits (first : Nat) : Reader (List Nat) := do
  if first = 0 then
    if ((← front).bind digit?).isSome then Reader.fail .number
    return [0]
  else return first :: (← manyDigits)

/-- The digits after a point, if there is one. -/
def fractionDigits (atEnd : Fault) : Reader (List Nat) := do
  if (← front) = some '.'.toUInt8 then
    Reader.skip
    someDigits atEnd
  else return []

/-- The exponent after a letter `e`, if there is one. -/
def exponentDigits (atEnd : Fault) : Reader (Option (Bool × List Nat)) := do
  let next ← front
  if next = some 'e'.toUInt8 ∨ next = some 'E'.toUInt8 then
    Reader.skip
    let sign ← front
    if sign = some '+'.toUInt8 ∨ sign = some '-'.toUInt8 then Reader.skip
    let digits ← someDigits atEnd
    return some (sign = some '-'.toUInt8, digits)
  else return none

/-- The literal at the front; `atEnd` is the fault of bytes that end before a digit. -/
def Literal.scan (atEnd : Fault) : Reader Literal := do
  let negative := (← front) = some '-'.toUInt8
  if negative then Reader.skip
  let whole ← wholeDigits (← oneDigit atEnd)
  let fraction ← fractionDigits atEnd
  let exponent ← exponentDigits atEnd
  return ⟨negative, whole, fraction, exponent⟩

/-! ## Values -/

/-- A number of a document. -/
inductive Number where
  | integer (value : Int)
  | float (value : Float)

/-- The greatest exponent that is read. -/
def maxExponent : Nat := 0x7FFFFFFF

/-- The digits that count, with the power of ten that makes up for the others. `full` tells that a
digit was left out. -/
structure Significand where
  value : Nat
  exponent : Int
  full : Bool

/-- A digit before the point. -/
def Significand.addWhole (s : Significand) (d : Nat) : Significand :=
  if !s.full ∧ Word64.fits (10 * s.value + d) then { s with value := 10 * s.value + d }
  else { s with exponent := s.exponent + 1, full := true }

/-- A digit after the point. -/
def Significand.addFraction (s : Significand) (d : Nat) : Significand :=
  if !s.full ∧ Word64.fits (10 * s.value + d) then
    { s with value := 10 * s.value + d, exponent := s.exponent - 1 }
  else { s with full := true }

/-- A power of ten. -/
def powerOfTen (n : Nat) : Float :=
  Float.ofScientific 1 false n

/-- A number divided by `10 ^ n`, in steps that a power of ten can represent. -/
def divideByPower (f : Float) (n : Nat) : Float :=
  if n ≤ 308 then f / powerOfTen n
  else if f == 0 then f
  else divideByPower (f / powerOfTen 308) (n - 308)
termination_by n

/-- A natural number times a power of ten. -/
def scale (value : Nat) (exponent : Int) : Except Fault Float :=
  let f := Float.ofNat value
  if exponent < 0 then .ok (divideByPower f (-exponent).toNat)
  else if exponent ≤ 308 then
    let f := f * powerOfTen exponent.toNat
    if f.isInf then .error .numberRange else .ok f
  else if f == 0 then .ok f
  else .error .numberRange

/-- The number that digits write. -/
def digitsNumber (digits : List Nat) : Nat :=
  digits.foldl (fun n d => 10 * n + d) 0

/-- The magnitude of a literal that is no integer. -/
def Literal.magnitude (l : Literal) : Except Fault Float :=
  let whole := l.whole.foldl Significand.addWhole ⟨0, 0, false⟩
  let s := l.fraction.foldl Significand.addFraction { whole with full := false }
  match l.exponent with
  | none => scale s.value s.exponent
  | some (minus, digits) =>
    let e := digitsNumber digits
    if e ≤ maxExponent then scale s.value (if minus then s.exponent - e else s.exponent + e)
    else if s.value ≠ 0 ∧ !minus then .error .numberRange
    else .ok 0

/-- The number of a literal. -/
def Literal.number (l : Literal) : Except Fault Number :=
  let n := digitsNumber l.whole
  if l.fraction = [] ∧ l.exponent = none ∧ Word64.fits n then
    if !l.negative then .ok (.integer n)
    else if n ≠ 0 ∧ Word64.fitsSigned (-n) then .ok (.integer (-n))
    else .ok (.float (-Float.ofNat n))
  else
    match l.magnitude with
    | .ok f => .ok (.float (if l.negative then -f else f))
    | .error fault => .error fault

/-- The number at the front. -/
def readNumber : Reader Number := do
  let literal ← Literal.scan .endInValue
  match literal.number with
  | .ok number => return number
  | .error fault => Reader.fail fault

end SessionReplay.Json
