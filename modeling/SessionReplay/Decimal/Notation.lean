import SessionReplay.Decimal.Shortest
import SessionReplay.Word64

/-!
# Written floating-point numbers

* `Notation` — when digits are written in place and when with an exponent;
* `Notation.text` — the shortest decimal of a number in a notation.
-/

namespace SessionReplay.Decimal

/-- The decisions of a way of writing numbers: the exponents of the first digit that are written
in place, the choice between decimals that are as near, and the names of the numbers that are not
finite. -/
structure Notation where
  lowest : Int
  highest : Int
  tie : Tie
  infinity : String
  notNumber : String

/-- Digits in place, with at least one on each side of the point. -/
def inPlace (digits : String) (exponent : Int) : String :=
  if exponent ≥ 0 then digits ++ String.ofList (List.replicate exponent.toNat '0') ++ ".0"
  else
    let after := (-exponent).toNat
    let padded := List.replicate (after + 1 - digits.length) '0' ++ digits.toList
    let split := padded.length - after
    String.ofList (padded.take split) ++ "." ++ String.ofList (padded.drop split)

/-- An exponent with its sign. -/
def exponentText (e : Int) : String :=
  (if e < 0 then "e-" else "e+") ++ toString e.natAbs

/-- Digits with an exponent; the point follows the first digit if there are more. -/
def withExponent (digits : String) (first : Int) : String :=
  match digits.toList with
  | [] => digits
  | [d] => d.toString ++ exponentText first
  | d :: rest => d.toString ++ "." ++ String.ofList rest ++ exponentText first

/-- A decimal in a notation. -/
def Notation.decimalText (style : Notation) (d : Decimal) : String :=
  let digits := toString d.digits
  let first := d.exponent + digits.length - 1
  if style.lowest ≤ first ∧ first ≤ style.highest then inPlace digits d.exponent
  else withExponent digits first

/-- The text of a floating-point number. -/
def Notation.text (style : Notation) (f : Float) : String :=
  let bits := f.toBits.toNat
  let sign := if bits / Word64.half = 1 then "-" else ""
  if f.isNaN then style.notNumber
  else if f.isInf then sign ++ style.infinity
  else
    let (m, q) := parts bits
    sign ++ (if m = 0 then "0.0" else style.decimalText (shortest style.tie m q))

end SessionReplay.Decimal
