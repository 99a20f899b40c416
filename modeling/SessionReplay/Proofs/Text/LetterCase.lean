import Mathlib.Tactic.IntervalCases
import SessionReplay.Text.Blank

/-!
# Letter case

* `asciiUpper_asciiLower`: the capitals of a text do not depend on its letter case;
* `sameLetters_iff_toList`, `asciiUpper_of_sameLetters`, `sameLetters_congr`: texts that differ in
  letter case only.
-/

namespace SessionReplay.Text

theorem toUpper_toLower (c : Char) : c.toLower.toUpper = c.toUpper := by
  by_cases h : 65 ≤ c.toNat ∧ c.toNat ≤ 90
  · obtain ⟨h1, h2⟩ := h
    rw [← Char.ofNat_toNat c]
    interval_cases c.toNat <;> decide
  · have hlower : c.toLower = c := dif_neg fun hc => h hc
    rw [hlower]

theorem asciiUpper_asciiLower (s : String) : asciiUpper (asciiLower s) = asciiUpper s := by
  rw [asciiUpper, asciiLower, asciiUpper, String.map_map]
  exact congrArg (String.map · s) (funext toUpper_toLower)

theorem sameLetters_iff {s t : String} : sameLetters s t = true ↔ asciiLower s = asciiLower t :=
  beq_iff_eq

theorem sameLetters_iff_toList {s t : String} : sameLetters s t = true ↔
    s.toList.map Char.toLower = t.toList.map Char.toLower := by
  rw [sameLetters_iff, asciiLower, asciiLower, ← String.toList_inj, String.toList_map,
    String.toList_map]

theorem asciiUpper_of_sameLetters {s t : String} (h : sameLetters s t = true) :
    asciiUpper s = asciiUpper t := by
  rw [← asciiUpper_asciiLower, sameLetters_iff.mp h, asciiUpper_asciiLower]

theorem sameLetters_congr {s t : String} (h : sameLetters s t = true) (u : String) :
    sameLetters s u = sameLetters t u := by
  rw [sameLetters, sameLetters, sameLetters_iff.mp h]

end SessionReplay.Text
