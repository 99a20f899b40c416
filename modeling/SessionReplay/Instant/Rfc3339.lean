import SessionReplay.Calendar
import SessionReplay.Instant.Basic
import SessionReplay.Text.Digit
import SessionReplay.Text.Utf8

/-!
# Written instants

An instant is written as a date, a time of day with any fraction of a second, and the offset of the
clock: `2024-01-31T23:59:60.5+01:00`.

* `Fault`, `Fault.message` — why a text is no instant, and the wording;
* `read` — the instant that a text writes.
-/

namespace SessionReplay.Instant

namespace Rfc3339

/-- Why a text is no instant. -/
inductive Fault where
  | tooShort
  | character
  | range
  | tooLong
  deriving DecidableEq, Repr

/-- The wording of a fault. -/
def Fault.message : Fault → String
  | .tooShort => "premature end of input"
  | .character => "input contains invalid characters"
  | .range => "input is out of range"
  | .tooLong => "trailing input"

/-! ## Reading -/

/-- A reader of the bytes of a text, from the front. -/
abbrev Reading : Type → Type := StateT (List UInt8) (Except Fault)

/-- The value of a decimal digit. -/
def digit? (b : UInt8) : Option Nat :=
  Text.decimalValue? b.toNat

/-- The next byte. -/
def byte : Reading UInt8 := fun s =>
  match s with
  | [] => .error .tooShort
  | b :: s => .ok (b, s)

/-- One sign of the form. -/
def sign (allowed : List UInt8) : Reading Unit := do
  unless allowed.contains (← byte) do throw .character

/-- The value of one digit. -/
def digit : Reading Nat := do
  match digit? (← byte) with
  | some value => return value
  | none => throw .character

/-- A number of two digits. -/
def twoDigits : Reading Nat :=
  return 10 * (← digit) + (← digit)

/-- The date, as a number of days. -/
def date : Reading Int := do
  let century ← twoDigits
  let year := 100 * century + (← twoDigits)
  sign ['-'.toUInt8]
  let month ← twoDigits
  sign ['-'.toUInt8]
  let day ← twoDigits
  if Calendar.isDate year month day then return Calendar.daysBefore year month day
  else throw .range

/-- Up to nine digits of a fraction, as nanoseconds; further ones are passed over. -/
def fraction : Reading Nat := fun s =>
  let digits := s.takeWhile fun b => (digit? b).isSome
  if digits.isEmpty then .error (if s.isEmpty then .tooShort else .character)
  else
    let kept := digits.take 9
    let value := kept.foldl (fun n b => 10 * n + (digit? b).getD 0) 0
    .ok (value * Nat.pow 10 (9 - kept.length), s.drop digits.length)

/-- A fraction after a point, if there is one. -/
def fraction? : Reading Nat := do
  if (← get).head? = some '.'.toUInt8 then
    let _ ← byte
    fraction
  else return 0

/-- The time of day: its second and the nanoseconds. A sixtieth second is a leap second. -/
def time : Reading (Nat × Nat) := do
  let hour ← twoDigits
  sign [':'.toUInt8]
  let minute ← twoDigits
  sign [':'.toUInt8]
  let second ← twoDigits
  let nanoseconds ← fraction?
  unless hour < 24 ∧ minute < 60 ∧ second ≤ 60 do throw .range
  let start := 3600 * hour + 60 * minute
  if second = 60 then return (start + 59, perSecond + nanoseconds)
  else return (start + second, nanoseconds)

/-- A number of two digits; fewer than two bytes are too few, whatever they are. -/
def pair : Reading Nat := do
  if (← get).length < 2 then throw .tooShort
  twoDigits

/-- The hours and minutes of an offset, in seconds. -/
def offsetSize : Reading Int := do
  let hours ← pair
  sign [':'.toUInt8]
  let minutes ← pair
  if minutes < 60 then return 3600 * hours + 60 * minutes else throw .range

/-- The minus sign of typesetting. -/
def longMinus : List UInt8 := Text.bytes "−"

/-- The offset in seconds; `Z` is none. -/
def offset : Reading Int := do
  if longMinus.isPrefixOf (← get) then
    modify (·.drop longMinus.length)
    return -(← offsetSize)
  let b ← byte
  if b = 'Z'.toUInt8 ∨ b = 'z'.toUInt8 then return 0
  else if b = '+'.toUInt8 then offsetSize
  else if b = '-'.toUInt8 then return -(← offsetSize)
  else throw .character

/-- A date, a time and an offset. -/
def instant : Reading Instant := do
  let days ← date
  sign ['T'.toUInt8, 't'.toUInt8, ' '.toUInt8]
  let (second, nanoseconds) ← time
  let offset ← offset
  unless (← get).isEmpty do throw .tooLong
  unless offset.natAbs < 86400 do throw .range
  return ⟨days * 86400 + second - offset, nanoseconds, offset⟩

/-- The shortest length of a date and a time, in bytes. -/
def shortest : Nat := 19

/-- The instant that a text writes. -/
def read (text : String) : Except Fault Instant :=
  let s := Text.bytes text
  if s.length < shortest then .error .tooShort else (instant.run s).map (·.1)

end Rfc3339

end SessionReplay.Instant
