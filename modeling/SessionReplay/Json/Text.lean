import SessionReplay.Json.Reader
import SessionReplay.Text.Digit
import SessionReplay.Text.Utf8

/-!
# Texts in documents

A text stands between quotes. A backslash begins an escape: of a sign, of a control character, or
of a unit of sixteen bits in four hexadecimal digits, where two units may stand for one character.

* `textBytes` — the bytes of a text after its opening quote, escapes read;
* `readText` — the text after an opening quote; its bytes have to be well formed;
* `skipText` — passing over a text whose escapes only need the right form.
-/

namespace SessionReplay.Json

/-! ## Escapes -/

/-- The value of a byte that is a hexadecimal digit. -/
def hexDigit? (b : UInt8) : Option Nat :=
  Text.hexValue? b.toNat

/-- The unit that four hexadecimal digits write. -/
def readUnit : List UInt8 → Outcome Nat
  | a :: b :: c :: d :: rest =>
    match hexDigit? a, hexDigit? b, hexDigit? c, hexDigit? d with
    | some a, some b, some c, some d => .ok (((a * 16 + b) * 16 + c) * 16 + d, rest)
    | _, _, _, _ => .error .escape
  | _ => .error .endInText

/-- The second unit of a pair: a backslash, the letter `u` and four digits. -/
def readSecondUnit : List UInt8 → Outcome Nat
  | [] => .error .endInText
  | a :: rest =>
    if a ≠ '\\'.toUInt8 then .error .surrogateEnd
    else
      match rest with
      | [] => .error .endInText
      | b :: rest => if b ≠ 'u'.toUInt8 then .error .surrogateEnd else readUnit rest

/-- The bytes of the character that one unit or a pair of units stands for. -/
def readUnits (s : List UInt8) : Outcome (List UInt8) :=
  match readUnit s with
  | .error fault => .error fault
  | .ok (first, rest) =>
    if 0xDC00 ≤ first ∧ first ≤ 0xDFFF then .error .loneSurrogate
    else if 0xD800 ≤ first ∧ first ≤ 0xDBFF then
      match readSecondUnit rest with
      | .error fault => .error fault
      | .ok (second, rest) =>
        if 0xDC00 ≤ second ∧ second ≤ 0xDFFF then
          .ok (String.utf8EncodeChar
            (Char.ofNat (0x10000 + (first - 0xD800) * 0x400 + (second - 0xDC00))), rest)
        else .error .loneSurrogate
    else .ok (String.utf8EncodeChar (Char.ofNat first), rest)

/-- The byte that a letter stands for after a backslash. -/
def escapedByte? (b : UInt8) : Option UInt8 :=
  if b = '"'.toUInt8 ∨ b = '\\'.toUInt8 ∨ b = '/'.toUInt8 then some b
  else if b = 'b'.toUInt8 then some 0x08
  else if b = 'f'.toUInt8 then some 0x0C
  else if b = 'n'.toUInt8 then some 0x0A
  else if b = 'r'.toUInt8 then some 0x0D
  else if b = 't'.toUInt8 then some 0x09
  else none

/-- The bytes that an escape stands for, after its backslash. -/
def readEscape : List UInt8 → Outcome (List UInt8)
  | [] => .error .endInText
  | b :: rest =>
    if b = 'u'.toUInt8 then readUnits rest
    else
      match escapedByte? b with
      | some byte => .ok ([byte], rest)
      | none => .error .escape

/-- Passing over an escape of the right form, after its backslash. -/
def skipEscape : List UInt8 → Outcome (List UInt8)
  | [] => .error .endInText
  | b :: rest =>
    if b = 'u'.toUInt8 then
      match readUnit rest with
      | .error fault => .error fault
      | .ok (_, rest) => .ok ([], rest)
    else if (escapedByte? b).isSome then .ok ([], rest)
    else .error .escape

/-! ## Lengths -/

theorem readUnit_length {s r : List UInt8} {n : Nat} (h : readUnit s = .ok (n, r)) :
    r.length < s.length := by
  unfold readUnit at h
  split at h
  · split at h
    · cases h; simp only [List.length_cons]; omega
    · cases h
  · cases h

theorem readSecondUnit_length {s r : List UInt8} {n : Nat} (h : readSecondUnit s = .ok (n, r)) :
    r.length < s.length := by
  unfold readSecondUnit at h
  split at h
  · cases h
  · split at h
    · cases h
    · split at h
      · cases h
      · split at h
        · cases h
        · have := readUnit_length h
          simp only [List.length_cons]; omega

theorem readUnits_length {s r bs : List UInt8} (h : readUnits s = .ok (bs, r)) :
    r.length < s.length := by
  unfold readUnits at h
  split at h
  · cases h
  · next hu =>
    have := readUnit_length hu
    split at h
    · cases h
    · split at h
      · split at h
        · cases h
        · next hs =>
          have := readSecondUnit_length hs
          split at h
          · simp only [Except.ok.injEq, Prod.mk.injEq] at h
            obtain ⟨_, rfl⟩ := h
            omega
          · cases h
      · simp only [Except.ok.injEq, Prod.mk.injEq] at h
        obtain ⟨_, rfl⟩ := h
        omega

theorem readEscape_length {s r bs : List UInt8} (h : readEscape s = .ok (bs, r)) :
    r.length < s.length := by
  unfold readEscape at h
  split at h
  · cases h
  · split at h
    · have := readUnits_length h
      simp only [List.length_cons]; omega
    · split at h
      · cases h; simp
      · cases h

theorem skipEscape_length {s r bs : List UInt8} (h : skipEscape s = .ok (bs, r)) :
    r.length < s.length := by
  unfold skipEscape at h
  split at h
  · cases h
  · split at h
    · split at h
      · cases h
      · next hu =>
        have := readUnit_length hu
        cases h
        simp only [List.length_cons]; omega
    · split at h
      · cases h; simp
      · cases h

/-! ## Whole texts -/

/-- The bytes of a text up to its closing quote; `escape` reads what follows a backslash. -/
def textBytes (escape : List UInt8 → Outcome (List UInt8))
    (shorter : ∀ {s bs r}, escape s = .ok (bs, r) → r.length < s.length) :
    List UInt8 → Outcome (List UInt8)
  | [] => .error .endInText
  | b :: rest =>
    if b = '"'.toUInt8 then .ok ([], rest)
    else if b = '\\'.toUInt8 then
      match _h : escape rest with
      | .error fault => .error fault
      | .ok (bs, rest) =>
        match textBytes escape shorter rest with
        | .error fault => .error fault
        | .ok (more, r) => .ok (bs ++ more, r)
    else if b < 0x20 then .error .controlCharacter
    else
      match textBytes escape shorter rest with
      | .error fault => .error fault
      | .ok (more, r) => .ok (b :: more, r)
termination_by s => s.length
decreasing_by
  · have := shorter _h
    simp only [List.length_cons]; omega
  · simp

theorem textBytes_length (escape : List UInt8 → Outcome (List UInt8))
    (shorter : ∀ {s bs r}, escape s = .ok (bs, r) → r.length < s.length)
    {s r bs : List UInt8} (h : textBytes escape shorter s = .ok (bs, r)) :
    r.length ≤ s.length := by
  fun_induction textBytes escape shorter s generalizing bs r with
  | case1 => cases h
  | case2 => cases h; simp
  | case3 => cases h
  | case4 => cases h
  | case5 =>
    rename_i he _ _ ht _ ih
    have := ih ht
    have := shorter he
    cases h
    simp only [List.length_cons]; omega
  | case6 => cases h
  | case7 => cases h
  | case8 =>
    rename_i ht ih
    have := ih ht
    cases h
    simp only [List.length_cons]; omega

/-- The text after an opening quote. -/
def readText : Reader String := do
  let bytes ← ⟨textBytes readEscape readEscape_length, textBytes_length _ readEscape_length⟩
  match Text.ofBytes? bytes with
  | some text => return text
  | none => Reader.fail .codePoint

/-- Passing over a text, after its opening quote. -/
def skipText : Reader Unit := do
  let _ ← ⟨textBytes skipEscape skipEscape_length, textBytes_length _ skipEscape_length⟩
  return ()

end SessionReplay.Json
