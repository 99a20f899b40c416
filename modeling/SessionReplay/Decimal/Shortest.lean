/-!
# The shortest decimal of a floating-point number

A finite number stands for every real that rounds to it. Of the decimals in that interval the one
with the fewest digits is chosen, and of several with as many digits the nearest. Two may be as
near as each other.

* `Tie` — which of two decimals is chosen if both are as near;
* `Interval` — a positive number and the reals that round to it, over a common denominator;
* `shortest` — the digits and the exponent of the chosen decimal.
-/

namespace SessionReplay

/-- A positive decimal: `digits · 10 ^ exponent`. -/
structure Decimal where
  digits : Nat
  exponent : Int
  deriving DecidableEq, Repr

namespace Decimal

/-- Which of two neighbouring decimals is chosen if both are as near: the one with an even last
digit, or the greater one. -/
inductive Tie where
  | even
  | up
  deriving DecidableEq, Repr

/-- The greater of two neighbours is chosen, of which the smaller one is `below`. -/
def Tie.choosesGreater (tie : Tie) (below : Nat) : Bool :=
  match tie with
  | even => below % 2 = 1
  | up => true

/-- The bit of a significand that is not stored. -/
def hiddenBit : Nat := 0x10000000000000

/-- The significand and the binary exponent of the magnitude of a finite number with these bits. -/
def parts (bits : Nat) : Nat × Int :=
  let field : Nat := bits / hiddenBit % 2048
  let fraction : Nat := bits % hiddenBit
  if field = 0 then (fraction, -1074) else (hiddenBit + fraction, (field : Int) - 1075)

/-- The numbers that round to a value: between `low` and `high`, all three over `unit`. The ends
belong to the interval if `closed`. -/
structure Interval where
  low : Nat
  value : Nat
  high : Nat
  unit : Nat
  closed : Bool

/-- The interval of the number `m · 2 ^ q`. Below a power of two the gap is half as wide. -/
def Interval.ofParts (m : Nat) (q : Int) : Interval :=
  let (up, down) := (Nat.pow 2 q.toNat, Nat.pow 2 (-q).toNat)
  let narrow := m = hiddenBit ∧ q > -1074
  { low := (4 * m - if narrow then 1 else 2) * up
    value := 4 * m * up
    high := (4 * m + 2) * up
    unit := 4 * down
    closed := m % 2 = 0 }

/-- The multiple `n` of `10 ^ e` lies in the interval. -/
def Interval.holds (i : Interval) (n : Nat) (e : Int) : Bool :=
  let point := n * Nat.pow 10 e.toNat * i.unit
  let scale := Nat.pow 10 (-e).toNat
  if i.closed then i.low * scale ≤ point && point ≤ i.high * scale
  else i.low * scale < point && point < i.high * scale

/-- The multiple of `10 ^ e` that is chosen, if one lies in the interval: of the two beside the
value the nearer one. -/
def Interval.multiple? (tie : Tie) (i : Interval) (e : Int) : Option Nat :=
  let scale := Nat.pow 10 (-e).toNat
  let step := Nat.pow 10 e.toNat * i.unit
  let below := i.value * scale / step
  let left := i.value * scale % step
  let nearer :=
    if 2 * left < step then below
    else if 2 * left > step ∨ tie.choosesGreater below then below + 1
    else below
  if nearer > 0 ∧ i.holds nearer e then some nearer
  else if below > 0 ∧ i.holds below e then some below
  else if i.holds (below + 1) e then some (below + 1)
  else none

/-- The first exponent, going down from `e` at most `steps` times, with a multiple in the
interval. -/
def Interval.search (tie : Tie) (i : Interval) : Nat → Int → Decimal
  | 0, e => ⟨(i.multiple? tie e).getD 0, e⟩
  | steps + 1, e =>
    match i.multiple? tie e with
    | some n => ⟨n, e⟩
    | none => i.search tie steps (e - 1)

/-- The shortest decimal of the positive number `m · 2 ^ q`. -/
def shortest (tie : Tie) (m : Nat) (q : Int) : Decimal :=
  (Interval.ofParts m q).search tie 660 320

end Decimal

end SessionReplay
