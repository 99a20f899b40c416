/-!
# Integers of 64 bits

* `Word64.limit`, `Word64.half` — the number of such integers, and half of it;
* `Word64.fits`, `Word64.fitsSigned` — a number is one of them, without or with a sign.
-/

namespace SessionReplay.Word64

/-- The number of integers of 64 bits. -/
def limit : Nat := 0x10000000000000000

/-- Half the number of integers of 64 bits. -/
def half : Nat := 0x8000000000000000

/-- A natural number of 64 bits. -/
def fits (n : Nat) : Bool :=
  n < limit

/-- An integer of 63 bits and a sign. -/
def fitsSigned (n : Int) : Bool :=
  -half ≤ n && n < half

end SessionReplay.Word64
