/-!
# Instants

* `Instant` — a moment, counted in seconds from the first of January 1970, with the part of a
  second and the offset of the clock that showed it;
* `Instant.gap` — the time between two instants in nanoseconds.
-/

namespace SessionReplay

/-- A moment. From 10⁹ nanoseconds on it lies in a leap second, which follows the second that it
is counted with. -/
structure Instant where
  seconds : Int
  nanoseconds : Nat
  offset : Int
  deriving DecidableEq, Repr

namespace Instant

/-- The nanoseconds of a second. -/
def perSecond : Nat := 1000000000

/-- The second of the day. -/
def secondOfDay (a : Instant) : Int :=
  a.seconds % 86400

/-- The instant lies in a leap second. -/
def inLeapSecond (a : Instant) : Bool :=
  perSecond ≤ a.nanoseconds

/-- What leap seconds add to the difference of the counts: the one that `a` lies in has passed if
`b` is later in the day, and the one that `b` lies in is not yet counted if `a` is later in the
day. -/
def leapAdjustment (a b : Instant) : Int :=
  if b.secondOfDay > a.secondOfDay ∧ a.inLeapSecond then perSecond
  else if b.secondOfDay < a.secondOfDay ∧ b.inLeapSecond then -perSecond
  else 0

/-- The time from `a` to `b` in nanoseconds, negative if `b` is the earlier one. -/
def gap (a b : Instant) : Int :=
  (b.seconds - a.seconds) * perSecond + (b.nanoseconds - a.nanoseconds) + leapAdjustment a b

end Instant

end SessionReplay
