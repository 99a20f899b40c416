/-!
# Punycode

A label of a host name written in basic characters only. The basic characters of the label come
first; the others follow as differences, in increasing order of the characters, each difference a
number to base 36 of variable length whose thresholds adapt to what came before.

* `encode` — the written form of a label;
* `decode` — the label of a written form; it fails on a foreign digit, on an unfinished number and
  on a number that is no character.
-/

namespace SessionReplay.Idna.Punycode

/-- Characters that are written as they are. -/
def isBasic (c : Char) : Bool :=
  c.toNat < 0x80

/-! ## Digits and thresholds -/

/-- The digit of a value below 36: a small letter, then a decimal digit. -/
def digit (value : Nat) : Char :=
  if value < 26 then Char.ofNat (0x61 + value) else Char.ofNat (0x16 + value)

/-- The value of a digit. -/
def digitValue? (c : Char) : Option Nat :=
  if 'a' ≤ c ∧ c ≤ 'z' then some (c.toNat - 0x61)
  else if 'A' ≤ c ∧ c ≤ 'Z' then some (c.toNat - 0x41)
  else if '0' ≤ c ∧ c ≤ '9' then some (c.toNat - 0x16)
  else none

/-- The threshold of the digit at `position`: digits below it end a number. -/
def threshold (bias position : Nat) : Nat :=
  if position ≤ bias then 1 else if position ≥ bias + 26 then 26 else position - bias

theorem threshold_pos (bias position : Nat) : 0 < threshold bias position := by
  unfold threshold
  split
  · exact Nat.one_pos
  · split <;> omega

theorem threshold_le (bias position : Nat) : threshold bias position ≤ 26 := by
  unfold threshold
  split
  · omega
  · split <;> omega

/-- A difference scaled down to the range of the bias, with the positions passed over. -/
def scaleDown (delta position : Nat) : Nat :=
  if delta > 455 then scaleDown (delta / 35) (position + 36)
  else position + 36 * delta / (delta + 38)
termination_by delta
decreasing_by exact Nat.div_lt_self (by omega) (by omega)

/-- The bias after the difference `delta`, when `count` characters stand in the label. -/
def adapt (delta count : Nat) (first : Bool) : Nat :=
  let delta := if first then delta / 700 else delta / 2
  scaleDown (delta + delta / count) 0

/-! ## Writing -/

/-- A difference as digits, from the digit at `position` on. -/
def writeNumber (bias position n : Nat) : List Char :=
  let t := threshold bias position
  if n < t then [digit n]
  else digit (t + (n - t) % (36 - t)) :: writeNumber bias (position + 36) ((n - t) / (36 - t))
termination_by n
decreasing_by
  have := threshold_pos bias position
  exact Nat.lt_of_le_of_lt (Nat.div_le_self _ _) (by omega)

/-- A label that is being written. -/
structure Writing where
  digits : List Char
  delta : Nat
  bias : Nat
  count : Nat

/-- Passing one character of the label while the character `code` is written. -/
def Writing.pass (basics code : Nat) (w : Writing) (c : Char) : Writing :=
  if c.toNat < code then { w with delta := w.delta + 1 }
  else if c.toNat = code then
    { digits := w.digits ++ writeNumber w.bias 36 w.delta
      delta := 0
      bias := adapt w.delta (w.count + 1) (w.count == basics)
      count := w.count + 1 }
  else w

/-- The characters `codes`, in increasing order, written one after the other; `next` is the
smallest character that the reader expects. -/
def writeCodes (label : List Char) (basics : Nat) : List Nat → Nat → Writing → Writing
  | [], _, w => w
  | code :: codes, next, w =>
    let w := { w with delta := w.delta + (code - next) * (w.count + 1) }
    let w := label.foldl (Writing.pass basics code) w
    writeCodes label basics codes (code + 1) { w with delta := w.delta + 1 }

/-- The written form of a label, without the sign that marks it. -/
def encode (label : List Char) : List Char :=
  let basics := label.filter isBasic
  let codes := ((label.filter (!isBasic ·)).map Char.toNat).mergeSort.eraseDups
  let w := writeCodes label basics.length codes 0x80 ⟨[], 0, 72, basics.length⟩
  (if basics.isEmpty then [] else basics ++ ['-']) ++ w.digits

/-! ## Reading -/

/-- A label that is being read: the characters so far, the character and the place that the last
number led to, and the number that is being read. -/
structure Reading where
  chars : List Char
  code : Nat
  place : Nat
  number : Nat
  weight : Nat
  position : Nat
  bias : Nat

/-- The character with a number, if there is one. -/
def character? (n : Nat) : Option Char :=
  if n.isValidChar then some (Char.ofNat n) else none

/-- Reading one digit. A digit below its threshold completes a number and puts a character into
the label. -/
def Reading.step (r : Reading) (c : Char) : Option Reading := do
  let value ← digitValue? c
  let number := r.number + value * r.weight
  let t := threshold r.bias r.position
  if value < t then
    let count := r.chars.length + 1
    let code := r.code + number / count
    let place := number % count
    let char ← character? code
    some
      { chars := r.chars.take place ++ char :: r.chars.drop place
        code
        place := place + 1
        number := place + 1
        weight := 1
        position := 36
        bias := adapt (number - r.place) count (r.place == 0) }
  else
    some { r with number, weight := r.weight * (36 - t), position := r.position + 36 }

/-- The digits after the basic characters `basics`. -/
def readDigits (basics digits : List Char) : Option (List Char) := do
  let r ← digits.foldlM Reading.step ⟨basics, 0x80, 0, 0, 1, 36, 72⟩
  if r.position = 36 then some r.chars else none

/-- The label of a written form. The last hyphen, unless it comes first, ends the basic
characters. -/
def decode (text : List Char) : Option (List Char) :=
  let after := text.reverse.takeWhile (· != '-')
  let before := text.reverse.drop (after.length + 1)
  if !text.all isBasic then none
  else if before.isEmpty then readDigits [] text
  else readDigits before.reverse after.reverse

end SessionReplay.Idna.Punycode
