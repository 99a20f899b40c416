/-!
# The nearest floating-point number of a decimal

* `nearest` — the number that `digits · 10 ^ exponent` rounds to.
-/

namespace SessionReplay.Decimal

/-- Decimals from this many places on either side of the point are infinite or zero. -/
def widest : Nat := 400

/-- The floating-point number that is nearest to `digits · 10 ^ exponent`. -/
def nearest (digits : Nat) (exponent : Int) : Float :=
  let top := exponent + (Nat.toDigits 10 digits).length
  if digits = 0 ∨ top < -widest then 0
  else if top > widest then Float.ofScientific 1 false widest
  else Float.ofScientific digits (exponent < 0) exponent.natAbs

end SessionReplay.Decimal
