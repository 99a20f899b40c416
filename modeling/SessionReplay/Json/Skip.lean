import SessionReplay.Json.Number
import SessionReplay.Json.Text

/-!
# Passing over values

A value that nobody asks for only has to be well formed. It may be nested to any depth: the open
brackets are kept on a stack.

* `skipValue` — passing over one value.
-/

namespace SessionReplay.Json

/-- An open bracket. -/
inductive Frame where
  | list
  | object
  deriving DecidableEq, Repr

/-- Where skipping stands: before a value, after an opening bracket, or after a value. -/
inductive Stage where
  | value
  | opened
  | done
  deriving DecidableEq, Repr

/-- The brackets of a frame. -/
def Frame.brackets : Frame → Brackets
  | .list => .square
  | .object => .curly

/-- What follows the first digit of a number. -/
def skipNumber (first : Nat) : Reader Unit := do
  let _ ← wholeDigits first
  let _ ← fractionDigits .number
  let _ ← exponentDigits .number
  return ()

/-- What follows the first byte of a value without brackets. -/
def skipScalar (first : UInt8) : Reader Unit :=
  if first = 'n'.toUInt8 then Reader.word (Text.bytes "ull")
  else if first = 't'.toUInt8 then Reader.word (Text.bytes "rue")
  else if first = 'f'.toUInt8 then Reader.word (Text.bytes "alse")
  else if first = '"'.toUInt8 then skipText
  else if first = '-'.toUInt8 then oneDigit .number >>= skipNumber
  else
    match digit? first with
    | some d => skipNumber d
    | none => Reader.fail .noValue

/-- The key before a value of an object, with its colon. -/
def skipKey : Reader Unit := do
  match ← Reader.peek with
  | none => Reader.fail .endInObject
  | some b =>
    if b ≠ '"'.toUInt8 then Reader.fail .keyNotText
    Reader.skip
    skipText
    match ← Reader.peek with
    | none => Reader.fail .endInObject
    | some b => if b = ':'.toUInt8 then Reader.skip else Reader.fail .noColon

/-- What stands before each value of a frame. -/
def Frame.skipLabel : Frame → Reader Unit
  | .list => pure ()
  | .object => skipKey

/-- Passing over what is left of a value within the open brackets `frames`, innermost first. -/
def skipFrom : Stage → List Frame → List UInt8 → Outcome Unit
  | .done, [], s => .ok ((), s)
  | .done, frame :: frames, s =>
    match _h : Reader.dropBlanks s with
    | [] => .error frame.brackets.unclosed
    | b :: rest =>
      if b = frame.brackets.closing then skipFrom .done frames rest
      else if b = ','.toUInt8 then
        match _hl : frame.skipLabel.run rest with
        | .error fault => .error fault
        | .ok ((), r) => skipFrom .value (frame :: frames) r
      else .error frame.brackets.noComma
  | .opened, [], _ => .error .noValue
  | .opened, frame :: frames, s =>
    match _h : Reader.dropBlanks s with
    | [] => .error frame.brackets.unclosed
    | b :: rest =>
      if b = frame.brackets.closing then skipFrom .done frames rest
      else
        match _hl : frame.skipLabel.run (b :: rest) with
        | .error fault => .error fault
        | .ok ((), r) => skipFrom .value (frame :: frames) r
  | .value, frames, s =>
    match _h : Reader.dropBlanks s with
    | [] => .error .endInValue
    | b :: rest =>
      if b = '['.toUInt8 then skipFrom .opened (.list :: frames) rest
      else if b = '\x7b'.toUInt8 then skipFrom .opened (.object :: frames) rest
      else
        match _hl : (skipScalar b).run rest with
        | .error fault => .error fault
        | .ok ((), r) => skipFrom .done frames r
termination_by stage _ s => 2 * s.length + (if stage = .opened then 1 else 0)
decreasing_by
  all_goals have hs := Reader.length_of_dropBlanks _h
  · simp; omega
  · have := frame.skipLabel.shrinks _hl
    simp; omega
  · simp; omega
  · have := frame.skipLabel.shrinks _hl
    simp only [List.length_cons] at this
    simp; omega
  · simp; omega
  · simp; omega
  · have := (skipScalar b).shrinks _hl
    simp; omega

theorem skipFrom_length {stage : Stage} {frames : List Frame} {s r : List UInt8}
    (h : skipFrom stage frames s = .ok ((), r)) : r.length ≤ s.length := by
  fun_induction skipFrom stage frames s with
  | case1 => cases h; exact Nat.le_refl _
  | case2 | case4 | case6 | case7 | case8 | case10 | case12 | case15 => cases h
  | case3 _ _ _ _ hs ih | case9 _ _ _ _ hs ih | case13 _ _ _ hs ih | case14 _ _ _ hs _ ih =>
    have := Reader.length_of_dropBlanks hs
    have := ih h
    omega
  | case5 =>
    rename_i hl hs _ ih
    have := Reader.length_of_dropBlanks hs
    have := Reader.shrinks _ hl
    have := ih h
    omega
  | case11 =>
    rename_i hs _ _ hl ih
    have := Reader.length_of_dropBlanks hs
    have := Reader.shrinks _ hl
    have := ih h
    simp only [List.length_cons] at *
    omega
  | case16 =>
    rename_i hs _ _ _ hl ih
    have := Reader.length_of_dropBlanks hs
    have := Reader.shrinks _ hl
    have := ih h
    omega

/-- Passing over one value. -/
def skipValue : Reader Unit :=
  ⟨skipFrom .value [], skipFrom_length⟩

end SessionReplay.Json
