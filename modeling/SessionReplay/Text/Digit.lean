/-!
# Digits

* `decimalValue?`, `hexValue?`, `digitValue?` — the value of the digit with a code, to base ten or
  sixteen or to any smaller base.
-/

namespace SessionReplay.Text

/-- The value of the decimal digit with a code. -/
def decimalValue? (code : Nat) : Option Nat :=
  if 0x30 ≤ code ∧ code ≤ 0x39 then some (code - 0x30) else none

/-- The value of the hexadecimal digit with a code, in either letter case. -/
def hexValue? (code : Nat) : Option Nat :=
  if 0x30 ≤ code ∧ code ≤ 0x39 then some (code - 0x30)
  else if 0x41 ≤ code ∧ code ≤ 0x46 then some (code - 0x37)
  else if 0x61 ≤ code ∧ code ≤ 0x66 then some (code - 0x57)
  else none

/-- The value of the digit with a code to a base of at most sixteen. -/
def digitValue? (base code : Nat) : Option Nat :=
  (hexValue? code).filter (· < base)

end SessionReplay.Text
