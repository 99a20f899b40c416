import Mathlib.Tactic.SplitIfs
import SessionReplay.Script.Literal
import SessionReplay.Text.Digit

/-!
# Reading of string literals

A literal is read character by character, by the rules for literals between double quotes: a
backslash escapes one character, or with `x` or `u` it announces two or four hexadecimal digits; no
line feed, carriage return or quote stands for itself. Digits and line ends after a backslash are
refused.

* `Literal.Mode`, `Literal.readChar` — one character inside a literal;
* `Literal.read` — the content that characters inside a literal write;
* **`read_escaped`**: reading undoes writing.
-/

namespace SessionReplay.Script.Literal

/-! ## The rules -/

/-- Where a reader of a literal stands: between characters, after a backslash, or before a number of
hexadecimal digits of a code whose first digits have been read. -/
inductive Mode where
  | plain
  | escape
  | code (left value : Nat)
  deriving DecidableEq, Repr

/-- A character that ends a line. -/
def isLineEnd (c : Char) : Bool :=
  c == '\n' || c == '\r' || c == '\u2028' || c == '\u2029'

/-- The character that a backslash and a character write. -/
def escapedBy? (c : Char) : Option Char :=
  if c = 'b' then some '\x08'
  else if c = 't' then some '\t'
  else if c = 'n' then some '\n'
  else if c = 'v' then some '\x0b'
  else if c = 'f' then some '\x0c'
  else if c = 'r' then some '\r'
  else if c.isDigit || isLineEnd c then none
  else some c

/-- The character with a code. -/
def ofCode? (value : Nat) : Option Char :=
  if value.isValidChar then some (Char.ofNat value) else none

/-- **One character inside a literal**: where the reader stands after it, and what it adds to the
content. -/
def readChar : Mode → Char → Option (Mode × List Char)
  | .plain, c =>
    if c = '\\' then some (.escape, [])
    else if c = '"' ∨ c = '\n' ∨ c = '\r' then none
    else some (.plain, [c])
  | .escape, c =>
    if c = 'u' then some (.code 4 0, [])
    else if c = 'x' then some (.code 2 0, [])
    else (escapedBy? c).map fun d => (.plain, [d])
  | .code left value, c =>
    (Text.hexValue? c.toNat).bind fun digit =>
      if left ≤ 1 then (ofCode? (16 * value + digit)).map fun d => (.plain, [d])
      else some (.code (left - 1) (16 * value + digit), [])

/-- The content that characters inside a literal write. -/
def read : Mode → List Char → Option (Mode × List Char)
  | mode, [] => some (mode, [])
  | mode, c :: cs =>
    (readChar mode c).bind fun next =>
      (read next.1 cs).map fun last => (last.1, next.2 ++ last.2)

/-! ## Reading what is written -/

theorem read_append {mode next last : Mode} {cs ds content more : List Char}
    (hcs : read mode cs = some (next, content)) (hds : read next ds = some (last, more)) :
    read mode (cs ++ ds) = some (last, content ++ more) := by
  induction cs generalizing mode content with
  | nil =>
    cases hcs
    exact hds
  | cons c cs ih =>
    rw [read, Option.bind_eq_some_iff] at hcs
    obtain ⟨first, hc, hcs⟩ := hcs
    obtain ⟨rest, hrest, heq⟩ := Option.map_eq_some_iff.mp hcs
    cases heq
    rw [List.cons_append, read, hc, Option.bind_some, ih hrest, Option.map_some,
      List.append_assoc]

theorem read_code_of_lt : ∀ n < 0xA0,
    read .plain (['\\', 'u'] ++ fourDigits (Char.ofNat n)) = some (.plain, [Char.ofNat n]) := by
  decide +kernel

/-- A control character or a line end is written by its code. -/
theorem read_code {c : Char}
    (h : Text.isControl c = true ∨ c = '\u2028' ∨ c = '\u2029') :
    read .plain (['\\', 'u'] ++ fourDigits c) = some (.plain, [c]) := by
  rcases h with h | rfl | rfl
  · have hcode : c.toNat < 0xA0 := by
      simp only [Text.isControl, Bool.or_eq_true, Bool.and_eq_true, decide_eq_true_eq] at h
      omega
    rw [← Char.ofNat_toNat c]
    exact read_code_of_lt c.toNat hcode
  · rfl
  · rfl

theorem read_escapedChar (c : Char) : read .plain (escapedChar c) = some (.plain, [c]) := by
  unfold escapedChar
  split_ifs with h1 h2 h3 h4 h5
  · rcases h1 with rfl | rfl <;> rfl
  · rw [h2]; rfl
  · rw [h3]; rfl
  · rw [h4]; rfl
  · exact read_code h5
  · have hplain : readChar .plain c = some (.plain, [c]) := by
      rw [readChar, if_neg (fun h => h1 (Or.inr h)), if_neg]
      rintro (h | h | h)
      · exact h1 (Or.inl h)
      · exact h2 h
      · exact h3 h
    rw [read, hplain]
    rfl

/-- **Reading undoes writing**: the characters of a literal are read as the text that it stands
for. -/
theorem read_escaped (cs : List Char) : read .plain (escaped cs) = some (.plain, cs) := by
  induction cs with
  | nil => rfl
  | cons c cs ih =>
    rw [escaped]
    split_ifs with h
    · have hdollar : read .plain ['\\', '$'] = some (.plain, ['$']) := rfl
      rw [h.1]
      exact read_append hdollar ih
    · exact read_append (read_escapedChar c) ih

end SessionReplay.Script.Literal
