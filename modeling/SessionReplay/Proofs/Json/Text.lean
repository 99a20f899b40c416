import Mathlib.Data.List.Forall2
import SessionReplay.Json.Shape
import SessionReplay.Proofs.Json.Brackets
import SessionReplay.Proofs.Text.Utf8

/-!
# Spellings of texts

Every character of a text may be written as it is or as an escape, with some exceptions.

* `WritesChar`, `WritesText` — how a character and a text are written;
* `RawText` — the form of a text, whose escapes need not stand for characters;
* **`Reader.text_reads`**: every spelling of a text is read as that text;
* `skipText_run`: every text of the right form is passed over.
-/

namespace SessionReplay.Json

/-! ## Spellings -/

/-- The signs that have an escape of their own, with the letter after the backslash. -/
def shortEscapes : List (Char × Char) :=
  [('"', '"'), ('\\', '\\'), ('/', '/'), ('\x08', 'b'), ('\x0C', 'f'), ('\n', 'n'), ('\r', 'r'),
    ('\t', 't')]

/-- A hexadecimal digit, in either letter case. -/
def HexDigit (n : Nat) (b : UInt8) : Prop :=
  n < 16 ∧ (b = (Nat.digitChar n).toUInt8 ∨ b = (Nat.digitChar n).toUpper.toUInt8)

/-- The four hexadecimal digits of a unit of sixteen bits. -/
def HexUnit (n : Nat) (digits : List UInt8) : Prop :=
  ∃ a b c d, n = ((a * 16 + b) * 16 + c) * 16 + d ∧ List.Forall₂ HexDigit [a, b, c, d] digits

/-- A character stands for itself, or it is written as an escape, for which there may be a letter,
one unit or two. -/
inductive WritesChar (c : Char) : List UInt8 → Prop
  | literal : 0x20 ≤ c.toNat → c ≠ '"' → c ≠ '\\' → WritesChar c (String.utf8EncodeChar c)
  | short {letter : Char} :
    (c, letter) ∈ shortEscapes → WritesChar c ['\\'.toUInt8, letter.toUInt8]
  | unit {digits : List UInt8} :
    HexUnit c.toNat digits → WritesChar c ('\\'.toUInt8 :: 'u'.toUInt8 :: digits)
  | pair {high low : Nat} {first second : List UInt8} :
    0xD800 ≤ high → high ≤ 0xDBFF → 0xDC00 ≤ low → low ≤ 0xDFFF →
      c.toNat = 0x10000 + (high - 0xD800) * 0x400 + (low - 0xDC00) →
        HexUnit high first → HexUnit low second →
          WritesChar c ('\\'.toUInt8 :: 'u'.toUInt8 ::
            (first ++ '\\'.toUInt8 :: 'u'.toUInt8 :: second))

/-- A text stands between quotes. -/
def WritesText (s : String) (v : List UInt8) : Prop :=
  ∃ pieces, List.Forall₂ WritesChar s.toList pieces ∧
    v = '"'.toUInt8 :: (pieces.flatten ++ ['"'.toUInt8])

/-- A byte that stands for itself in a text. -/
def Plain (b : UInt8) : Prop :=
  b ≠ '"'.toUInt8 ∧ b ≠ '\\'.toUInt8 ∧ ¬b < 0x20

/-- A byte that stands for itself, or an escape of the right form. -/
inductive RawPiece : List UInt8 → Prop
  | plain {b : UInt8} : Plain b → RawPiece [b]
  | short {c letter : Char} :
    (c, letter) ∈ shortEscapes → RawPiece ['\\'.toUInt8, letter.toUInt8]
  | unit {n : Nat} {digits : List UInt8} :
    HexUnit n digits → RawPiece ('\\'.toUInt8 :: 'u'.toUInt8 :: digits)

/-- The form of a text. -/
def RawText (v : List UInt8) : Prop :=
  ∃ pieces : List (List UInt8), (∀ piece ∈ pieces, RawPiece piece) ∧
    v = '"'.toUInt8 :: (pieces.flatten ++ ['"'.toUInt8])

/-! ## Bytes of characters -/

theorem plain_utf8EncodeChar {c : Char} (hc : 0x20 ≤ c.toNat) (hquote : c ≠ '"')
    (hslash : c ≠ '\\') : ∀ b ∈ String.utf8EncodeChar c, Plain b := by
  intro b hb
  refine ⟨Text.ne_of_mem_utf8EncodeChar (by decide) hquote hb,
    Text.ne_of_mem_utf8EncodeChar (by decide) hslash hb, fun hlt => ?_⟩
  have hlt : b.toNat < 0x20 := UInt8.lt_iff_toNat_lt.mp hlt
  obtain ⟨hbytes, hbasic⟩ | hbeyond := Text.utf8EncodeChar_eq_or c
  · have hcode : c.val.toUInt8.toNat = c.toNat := Text.toNat_toUInt8 hbasic
    rw [hbytes, List.mem_singleton] at hb
    rw [hb, hcode] at hlt
    omega
  · have hle := hbeyond b hb
    omega

/-! ## Escapes -/

variable {n : Nat} {b : UInt8} {digits rest r bs more : List UInt8}

theorem hexDigit?_of_hexDigit (h : HexDigit n b) : hexDigit? b = some n := by
  obtain ⟨hn, hb⟩ := h
  have hdigits : ∀ n < 16, hexDigit? (Nat.digitChar n).toUInt8 = some n ∧
      hexDigit? (Nat.digitChar n).toUpper.toUInt8 = some n := by decide
  rcases hb with rfl | rfl
  · exact (hdigits n hn).1
  · exact (hdigits n hn).2

theorem readUnit_of_hexUnit (h : HexUnit n digits) (rest : List UInt8) :
    readUnit (digits ++ rest) = .ok (n, rest) := by
  obtain ⟨a, b, c, d, rfl, h⟩ := h
  simp only [List.forall₂_cons_left_iff, List.forall₂_nil_left_iff] at h
  obtain ⟨x, _, hx, ⟨y, _, hy, ⟨z, _, hz, ⟨w, _, hw, rfl, rfl⟩, rfl⟩, rfl⟩, rfl⟩ := h
  simp only [List.cons_append, List.nil_append, readUnit, hexDigit?_of_hexDigit hx,
    hexDigit?_of_hexDigit hy, hexDigit?_of_hexDigit hz, hexDigit?_of_hexDigit hw]

/-- A unit that stands for a character by itself. -/
theorem readUnits_of_char {c : Char} (h : HexUnit c.toNat digits) (rest : List UInt8) :
    readUnits (digits ++ rest) = .ok (String.utf8EncodeChar c, rest) := by
  have hvalid : c.toNat < 0xD800 ∨ 0xDFFF < c.toNat ∧ c.toNat < 0x110000 := c.valid
  rw [readUnits, readUnit_of_hexUnit h]
  simp only [Char.ofNat_toNat]
  rw [if_neg (by omega), if_neg (by omega)]

/-- Two units that stand for a character. -/
theorem readUnits_of_pair {c : Char} {high low : Nat} {first second : List UInt8}
    (hhigh : 0xD800 ≤ high) (hhigh' : high ≤ 0xDBFF) (hlow : 0xDC00 ≤ low) (hlow' : low ≤ 0xDFFF)
    (hc : c.toNat = 0x10000 + (high - 0xD800) * 0x400 + (low - 0xDC00))
    (hfirst : HexUnit high first) (hsecond : HexUnit low second) (rest : List UInt8) :
    readUnits (first ++ '\\'.toUInt8 :: 'u'.toUInt8 :: (second ++ rest)) =
      .ok (String.utf8EncodeChar c, rest) := by
  have hpair : readSecondUnit ('\\'.toUInt8 :: 'u'.toUInt8 :: (second ++ rest)) =
      .ok (low, rest) := readUnit_of_hexUnit hsecond rest
  rw [readUnits, readUnit_of_hexUnit hfirst]
  simp only [hpair, ← hc, Char.ofNat_toNat]
  rw [if_neg (by omega), if_pos ⟨hhigh, hhigh'⟩, if_pos ⟨hlow, hlow'⟩]

theorem escapedByte?_of_short {c letter : Char} (h : (c, letter) ∈ shortEscapes) :
    letter.toUInt8 ≠ 'u'.toUInt8 ∧ escapedByte? letter.toUInt8 = some c.toUInt8 ∧
      String.utf8EncodeChar c = [c.toUInt8] := by
  have hall : ∀ p ∈ shortEscapes, p.2.toUInt8 ≠ 'u'.toUInt8 ∧
      escapedByte? p.2.toUInt8 = some p.1.toUInt8 ∧ String.utf8EncodeChar p.1 = [p.1.toUInt8] := by
    decide
  exact hall _ h

theorem readEscape_short {c letter : Char} (h : (c, letter) ∈ shortEscapes) (rest : List UInt8) :
    readEscape (letter.toUInt8 :: rest) = .ok (String.utf8EncodeChar c, rest) := by
  obtain ⟨hne, hbyte, hchar⟩ := escapedByte?_of_short h
  rw [readEscape, if_neg hne, hbyte, hchar]

theorem skipEscape_short {c letter : Char} (h : (c, letter) ∈ shortEscapes) (rest : List UInt8) :
    skipEscape (letter.toUInt8 :: rest) = .ok ([], rest) := by
  obtain ⟨hne, hbyte, -⟩ := escapedByte?_of_short h
  rw [skipEscape, if_neg hne, hbyte]
  rfl

theorem skipEscape_unit (h : HexUnit n digits) (rest : List UInt8) :
    skipEscape ('u'.toUInt8 :: (digits ++ rest)) = .ok ([], rest) := by
  rw [skipEscape, if_pos rfl, readUnit_of_hexUnit h]

/-! ## Texts -/

section

variable {escape : List UInt8 → Outcome (List UInt8)}
  {shorter : ∀ {s bs r}, escape s = .ok (bs, r) → r.length < s.length}

theorem textBytes_quote (rest : List UInt8) :
    textBytes escape shorter ('"'.toUInt8 :: rest) = .ok ([], rest) := by
  rw [textBytes, if_pos rfl]

theorem textBytes_plain (hb : Plain b) (h : textBytes escape shorter rest = .ok (more, r)) :
    textBytes escape shorter (b :: rest) = .ok (b :: more, r) := by
  rw [textBytes, if_neg hb.1, if_neg hb.2.1, if_neg hb.2.2, h]

theorem textBytes_escape {s : List UInt8} (hs : escape s = .ok (bs, rest))
    (h : textBytes escape shorter rest = .ok (more, r)) :
    textBytes escape shorter ('\\'.toUInt8 :: s) = .ok (bs ++ more, r) := by
  rw [textBytes, if_neg (by decide), if_pos rfl]
  split
  next hs' => cases hs.symm.trans hs'
  next hs' =>
    cases hs.symm.trans hs'
    rw [h]

theorem textBytes_plains (hbs : ∀ b ∈ bs, Plain b)
    (h : textBytes escape shorter rest = .ok (more, r)) :
    textBytes escape shorter (bs ++ rest) = .ok (bs ++ more, r) := by
  induction bs with
  | nil => exact h
  | cons b bs ih =>
    rw [List.forall_mem_cons] at hbs
    exact textBytes_plain hbs.1 (ih hbs.2)

end

variable {c : Char} {piece v : List UInt8} {pieces : List (List UInt8)}

/-- Every spelling of a character is read as that character. -/
theorem textBytes_of_writesChar (hc : WritesChar c piece)
    (h : textBytes readEscape readEscape_length rest = .ok (more, r)) :
    textBytes readEscape readEscape_length (piece ++ rest) =
      .ok (String.utf8EncodeChar c ++ more, r) := by
  cases hc with
  | literal hcode hquote hslash =>
    exact textBytes_plains (plain_utf8EncodeChar hcode hquote hslash) h
  | short hletter => exact textBytes_escape (readEscape_short hletter rest) h
  | unit hdigits => exact textBytes_escape (readUnits_of_char hdigits rest) h
  | pair hhigh hhigh' hlow hlow' hcode hfirst hsecond =>
    have hunits := readUnits_of_pair hhigh hhigh' hlow hlow' hcode hfirst hsecond rest
    rw [List.cons_append, List.cons_append, List.append_assoc]
    exact textBytes_escape hunits h

theorem textBytes_of_writesText {cs : List Char} (h : List.Forall₂ WritesChar cs pieces)
    (rest : List UInt8) :
    textBytes readEscape readEscape_length (pieces.flatten ++ '"'.toUInt8 :: rest) =
      .ok (cs.flatMap String.utf8EncodeChar, rest) := by
  induction h with
  | nil => exact textBytes_quote rest
  | cons hc _ ih =>
    rw [List.flatten_cons, List.append_assoc, List.flatMap_cons]
    exact textBytes_of_writesChar hc ih

/-- A text after its opening quote. -/
theorem readText_run {s : String} (h : List.Forall₂ WritesChar s.toList pieces)
    (rest : List UInt8) :
    readText.run (pieces.flatten ++ '"'.toUInt8 :: rest) = .ok (s, rest) := by
  have hbytes := textBytes_of_writesText h rest
  rw [← Text.bytes_eq_flatMap] at hbytes
  simp only [readText, Reader.run_bind, hbytes, Text.ofBytes?_bytes, Reader.run_pure]

theorem begun_of_writesText {s : String} (h : WritesText s v) : Begun v := by
  obtain ⟨pieces, -, rfl⟩ := h
  exact ⟨_, _, rfl, rfl⟩

/-- **Every spelling of a text is read as that text.** -/
theorem Reader.text_reads {s : String} (h : WritesText s v) : Reader.text.Reads v s := by
  refine ⟨begun_of_writesText h, fun hws hrest => ?_⟩
  obtain ⟨pieces, hpieces, rfl⟩ := h
  rw [text, List.cons_append, run_bind_of_ok (run_peek_cons hws rfl _), if_pos rfl,
    run_bind_of_ok (run_skip _ _), List.append_assoc]
  exact readText_run hpieces _

/-! ## Texts that are passed over -/

theorem textBytes_of_rawPiece (hpiece : RawPiece piece)
    (h : textBytes skipEscape skipEscape_length rest = .ok (more, r)) :
    ∃ more', textBytes skipEscape skipEscape_length (piece ++ rest) = .ok (more', r) := by
  cases hpiece with
  | plain hb => exact ⟨_, textBytes_plain hb h⟩
  | short hletter => exact ⟨_, textBytes_escape (skipEscape_short hletter rest) h⟩
  | unit hdigits => exact ⟨_, textBytes_escape (skipEscape_unit hdigits rest) h⟩

/-- **A text of the right form is passed over**, after its opening quote. -/
theorem skipText_run (h : ∀ piece ∈ pieces, RawPiece piece) (rest : List UInt8) :
    skipText.run (pieces.flatten ++ '"'.toUInt8 :: rest) = .ok ((), rest) := by
  have hbytes : ∃ bs, textBytes skipEscape skipEscape_length
      (pieces.flatten ++ '"'.toUInt8 :: rest) = .ok (bs, rest) := by
    induction pieces with
    | nil => exact ⟨[], textBytes_quote rest⟩
    | cons piece pieces ih =>
      rw [List.forall_mem_cons] at h
      obtain ⟨bs, hbs⟩ := ih h.2
      rw [List.flatten_cons, List.append_assoc]
      exact textBytes_of_rawPiece h.1 hbs
  obtain ⟨bs, hbs⟩ := hbytes
  simp only [skipText, Reader.run_bind, hbs, Reader.run_pure]

end SessionReplay.Json
