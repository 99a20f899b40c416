import Mathlib.Algebra.Group.Nat.Defs
import Mathlib.Tactic.ByContra
import Mathlib.Tactic.SplitIfs
import SessionReplay.CommandLine.Convert
import SessionReplay.Proofs.Text.Parts

/-!
# Values on the command line

* `WritesNumber`, `SplitsAtCommas` — how numbers and lists are written;
* **`number?_eq_some_iff`**: the numbers of 64 bits are read, with a plus sign or without;
* **`splitsAtCommas_iff`**: lists are split at all of their commas, and there is one way to do so.
-/

namespace SessionReplay.CommandLine

variable {text : String} {n : Nat}

/-! ## Numbers -/

/-- A text writes a natural number of 64 bits: in decimal digits, which may begin with zeros, behind
a plus sign or not. -/
def WritesNumber (text : String) (n : Nat) : Prop :=
  ∃ digits : List Char, (text.toList = digits ∨ text.toList = '+' :: digits) ∧ digits ≠ [] ∧
    (∀ c ∈ digits, c.isDigit = true) ∧ n = Nat.ofDigitChars 10 digits 0 ∧ n < 2 ^ 64

/-- The characters behind a plus sign, if there is one. -/
def unsigned : List Char → List Char
  | '+' :: cs => cs
  | cs => cs

theorem eq_unsigned_or (cs : List Char) : cs = unsigned cs ∨ cs = '+' :: unsigned cs := by
  unfold unsigned
  split
  · exact .inr rfl
  · exact .inl rfl

theorem unsigned_of_digits {digits : List Char} (h : ∀ c ∈ digits, c.isDigit = true) :
    unsigned digits = digits := by
  unfold unsigned
  split
  · exact absurd (h '+' List.mem_cons_self) (by decide)
  · rfl

theorem number?_eq (text : String) : number? text =
    if (unsigned text.toList).isEmpty ∨ (unsigned text.toList).any (!·.isDigit) then none
    else if Word64.fits (Nat.ofDigitChars 10 (unsigned text.toList) 0) then
      some (Nat.ofDigitChars 10 (unsigned text.toList) 0)
    else none := rfl

/-- **Which numbers are read.** -/
theorem number?_eq_some_iff : number? text = some n ↔ WritesNumber text n := by
  rw [number?_eq]
  simp only [List.isEmpty_iff, List.any_eq_true, Bool.not_eq_true', Word64.fits, decide_eq_true_eq]
  constructor
  · intro h
    split_ifs at h with hdigits hfits
    obtain rfl := Option.some.inj h
    obtain ⟨hne, hall⟩ := not_or.mp hdigits
    refine ⟨unsigned text.toList, eq_unsigned_or _, hne, fun c hc => ?_, rfl, hfits⟩
    by_contra hc'
    exact hall ⟨c, hc, Bool.eq_false_iff.mpr hc'⟩
  · rintro ⟨digits, htext, hne, hdigits, rfl, hfits⟩
    have hunsigned : unsigned text.toList = digits := by
      rcases htext with htext | htext
      · rw [htext, unsigned_of_digits hdigits]
      · rw [htext]
        rfl
    rw [hunsigned, if_neg, if_pos (show _ < Word64.limit from hfits)]
    rintro (hempty | ⟨c, hc, hfalse⟩)
    · exact hne hempty
    · rw [hdigits c hc] at hfalse
      cases hfalse

theorem isSome_number?_iff : (number? text).isSome ↔ ∃ n, WritesNumber text n := by
  simp only [Option.isSome_iff_exists, number?_eq_some_iff]

/-! ## Lists -/

/-- A text is its parts with commas between them, and no part has a comma. -/
structure SplitsAtCommas (text : String) (parts : List String) : Prop where
  ne_nil : parts ≠ []
  comma : ∀ part ∈ parts, ',' ∉ part.toList
  intercalate : ",".intercalate parts = text

theorem splitsAtCommas_commaParts (text : String) : SplitsAtCommas text (commaParts text) :=
  ⟨Text.parts_ne_nil ',' text, fun _ => Text.notMem_of_mem_parts, Text.intercalate_parts rfl text⟩

/-- **How lists are read.** -/
theorem splitsAtCommas_iff {parts : List String} :
    SplitsAtCommas text parts ↔ parts = commaParts text := by
  refine ⟨fun h => ?_, fun h => h ▸ splitsAtCommas_commaParts text⟩
  rw [← h.intercalate]
  exact (Text.parts_intercalate rfl h.ne_nil h.comma).symm

end SessionReplay.CommandLine
