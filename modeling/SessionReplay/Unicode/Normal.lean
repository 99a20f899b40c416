import SessionReplay.Unicode.Canonical
import SessionReplay.Unicode.CombiningClass

/-!
# The composed normal form

* `decompose` — every character replaced by its canonical decomposition, marks in order of their
  class;
* `compose` — characters joined to composites where nothing between them blocks it;
* `normalize` — both in turn. A text of basic characters is its own normal form.
-/

namespace SessionReplay.Unicode

/-! ## Hangul syllables -/

/-- The first syllable, and the first leading consonant, vowel and (before the first) trailing
consonant. -/
def hangulBase : Nat × Nat × Nat × Nat := (0xAC00, 0x1100, 0x1161, 0x11A7)

/-- The letters of a Hangul syllable. -/
def syllableLetters? (c : Char) : Option (List Char) :=
  let (s, l, v, t) := hangulBase
  let n := c.toNat
  if s ≤ n ∧ n < s + 11172 then
    let index := n - s
    let letters := [Char.ofNat (l + index / 588), Char.ofNat (v + index % 588 / 28)]
    some (if index % 28 = 0 then letters else letters ++ [Char.ofNat (t + index % 28)])
  else none

/-- The syllable of a leading consonant and a vowel, or of a syllable without a trailing consonant
and one. -/
def syllable? (first second : Char) : Option Char :=
  let (s, l, v, t) := hangulBase
  let (a, b) := (first.toNat, second.toNat)
  if l ≤ a ∧ a < l + 19 ∧ v ≤ b ∧ b < v + 21 then
    some (Char.ofNat (s + ((a - l) * 21 + (b - v)) * 28))
  else if s ≤ a ∧ a < s + 11172 ∧ (a - s) % 28 = 0 ∧ t < b ∧ b < t + 28 then
    some (Char.ofNat (a + (b - t)))
  else none

/-! ## Decomposition -/

/-- One character decomposed. -/
def decomposeChar (c : Char) : List Char :=
  (syllableLetters? c).getD ((decomposition? c).getD [c])

/-- A mark put among the marks at the front, after those whose class is not greater. -/
def insertMark (c : Char) : List Char → List Char
  | [] => [c]
  | d :: rest =>
    if combiningClass d ≠ 0 ∧ combiningClass d < combiningClass c then d :: insertMark c rest
    else c :: d :: rest

/-- Runs of marks in order of their class; marks of one class stay in their order. -/
def orderMarks : List Char → List Char
  | [] => []
  | c :: rest =>
    if combiningClass c = 0 then c :: orderMarks rest else insertMark c (orderMarks rest)

/-- The decomposed form of a text. -/
def decompose (cs : List Char) : List Char :=
  orderMarks (cs.flatMap decomposeChar)

/-! ## Composition -/

/-- What is left over of a text that is being composed: the last base character if there is one,
the characters after it that did not join it, latest first, and the class of the latest. -/
structure Composing where
  done : List Char
  base : Option Char
  marks : List Char
  blocking : Nat

/-- Everything composed so far. -/
def Composing.finish (s : Composing) : List Char :=
  s.done ++ s.base.toList ++ s.marks.reverse

/-- A character that does not join the base. -/
def Composing.keep (s : Composing) (c : Char) : Composing :=
  if combiningClass c = 0 then ⟨s.finish, some c, [], 0⟩
  else { s with marks := c :: s.marks, blocking := combiningClass c }

/-- The next character of a decomposed text. It joins the base unless a character of its class or
of a greater one stands between them. -/
def Composing.step (s : Composing) (c : Char) : Composing :=
  match s.base with
  | none => s.keep c
  | some base =>
    if s.marks ≠ [] ∧ combiningClass c ≤ s.blocking then s.keep c
    else
      match (syllable? base c).or (composite? base c) with
      | some joined => { s with base := some joined }
      | none => s.keep c

/-- The composed form of a decomposed text. -/
def compose (cs : List Char) : List Char :=
  (cs.foldl Composing.step ⟨[], none, [], 0⟩).finish

/-- The composed normal form of a text. -/
def normalize (cs : List Char) : List Char :=
  if cs.all (·.toNat < 0x80) then cs else compose (decompose cs)

end SessionReplay.Unicode
