import SessionReplay.Calendar
import SessionReplay.Decimal.Nearest
import SessionReplay.Text.Digit
import SessionReplay.Toml.Scan
import SessionReplay.Toml.Value
import SessionReplay.Word64

/-!
# Numbers and moments of settings files

* `number` — an integer of 64 bits, to base 10, 16, 8 or 2, or a floating-point number; single
  underscores may stand between digits;
* `moment` — a date, a time, or both with or without an offset.
-/

namespace SessionReplay.Toml.Scan

/-! ## Digits -/

/-- The digits at the front, each of which may follow an underscore, and the rest. -/
def moreDigits (base : Nat) : List Char → List Nat × List Char
  | [] => ([], [])
  | '_' :: c :: s =>
    match Text.digitValue? base c.toNat with
    | some d => ((moreDigits base s).1.cons d, (moreDigits base s).2)
    | none => ([], '_' :: c :: s)
  | c :: s =>
    match Text.digitValue? base c.toNat with
    | some d => ((moreDigits base s).1.cons d, (moreDigits base s).2)
    | none => ([], c :: s)

/-- One digit. -/
def digit (base : Nat) : Scan Nat := do
  Text.digitValue? base (← next).toNat

/-- One or more digits. -/
def digits (base : Nat) : Scan (List Nat) := do
  let first ← digit base
  return first :: (← fun s => some (moreDigits base s))

/-- The number of digits to a base. -/
def digitsNumber (base : Nat) (ds : List Nat) : Nat :=
  ds.foldl (fun n d => base * n + d) 0

/-- A sign, if there is one: whether it is a minus. -/
def minus : Scan Bool := do
  match ← peek with
  | some '-' => sign '-'; return true
  | some '+' => sign '+'; return false
  | _ => return false

/-- A sign and decimal digits, the first of which is zero only if it is the only one. -/
def wholePart : Scan (Bool × List Nat) := do
  let negative ← minus
  if (← peek) = some '0' then
    sign '0'
    return (negative, [0])
  else return (negative, ← digits 10)

/-! ## Integers -/

/-- An integer that fits 64 bits. -/
def integerValue (negative : Bool) (magnitude : Nat) : Scan Value :=
  let value : Int := if negative then -magnitude else magnitude
  if Word64.fitsSigned value then return .integer value else failure

/-- An integer. -/
def integer : Scan Value := do
  match (← get).take 2 with
  | ['0', 'x'] => based 16
  | ['0', 'o'] => based 8
  | ['0', 'b'] => based 2
  | _ =>
    let (negative, ds) ← wholePart
    integerValue negative (digitsNumber 10 ds)
where
  based (base : Nat) : Scan Value := do
    drop (·.drop 2)
    integerValue false (digitsNumber base (← digits base))

/-! ## Floating-point numbers -/

/-- The digits after a point. -/
def fractionPart : Scan (List Nat) := do
  sign '.'
  digits 10

/-- The exponent after a letter `e`. -/
def exponentPart : Scan Int := do
  unless ['e', 'E'].contains (← next) do failure
  let negative ← minus
  let n := digitsNumber 10 (← digits 10)
  return if negative then -n else n

/-- A floating-point number with a fraction or an exponent. -/
def finiteFloat : Scan Value := do
  let (negative, whole) ← wholePart
  let (fraction, exponent) ←
    (do return (([] : List Nat), ← exponentPart)) <|>
      (do
        let fraction ← fractionPart
        return (fraction, ← exponentPart <|> pure 0))
  let value := Decimal.nearest (digitsNumber 10 (whole ++ fraction)) (exponent - fraction.length)
  if negative then return .float (-value)
  else if value.isInf then failure
  else return .float value

/-- Infinity, or no number. -/
def specialFloat : Scan Value := do
  let negative ← minus
  let value : Float ← (do word "inf"; return 1.0 / 0.0) <|> (do word "nan"; return 0.0 / 0.0)
  return .float (if negative then -value else value)

/-! ## Moments -/

/-- A number of exactly `count` decimal digits. -/
def fixedDigits : Nat → Nat → Scan Nat
  | 0, value => return value
  | count + 1, value => do
    let d ← digit 10
    fixedDigits count (10 * value + d)

/-- A number of two digits that is at most `last`. -/
def twoDigits (last : Nat) : Scan Unit := do
  unless (← fixedDigits 2 0) ≤ last do failure

/-- A day. -/
def date : Scan Unit := do
  let year ← fixedDigits 4 0
  sign '-'
  let month ← fixedDigits 2 0
  sign '-'
  let day ← fixedDigits 2 0
  unless Calendar.isDate year month day do failure

/-- A fraction of a second. -/
def secondFraction : Scan Unit := do
  sign '.'
  let _ ← digit 10
  let _ ← takeWhile fun c => (Text.decimalValue? c.toNat).isSome

/-- A time of day; it may lie in a leap second. -/
def time : Scan Unit := do
  twoDigits 23
  sign ':'
  twoDigits 59
  sign ':'
  twoDigits 60
  secondFraction <|> pure ()

/-- The offset of a clock. -/
def offset : Scan Unit := do
  let c ← next
  if ['Z', 'z'].contains c then return ()
  else if ['+', '-'].contains c then
    twoDigits 23
    sign ':'
    twoDigits 59
  else failure

/-- A time after a date. -/
def timeAfterDate : Scan Unit := do
  unless ['T', 't', ' '].contains (← next) do failure
  time
  offset <|> pure ()

/-- A date, a time, or both. -/
def moment : Scan Value := do
  (do date; timeAfterDate <|> pure ()) <|> time
  return .moment

/-- A number or a moment. -/
def number : Scan Value :=
  moment <|> finiteFloat <|> specialFloat <|> integer

end SessionReplay.Toml.Scan
