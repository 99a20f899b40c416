import SessionReplay.Proofs.Script.Literal

/-!
# String literals in running text

The grammar of literals between double quotes, as it is for every text and not only for what a
script holds: escapes of one character, of two and four hexadecimal digits and of a code in braces,
the escaped zero, and line ends after a backslash. Contents are UTF-16 code units. Editions of the
language differ in one point: the line and the paragraph separator stand for themselves in the
newer ones only.

* `Literal.codeUnits`, `Literal.unitsOf` — the code units of a code and of a text;
* `Literal.Escape`, `Literal.Piece`, `Literal.Lexes` — the grammar;
* `lexes_unique`: a text begins with at most one literal, which writes one content;
* **`lexes_text`**: a written literal is read as its text, up to where it ends.
-/

namespace SessionReplay.Script.Literal

/-! ## Code units -/

/-- The code units of a code: one, or two beyond the first plane. -/
def codeUnits (code : Nat) : List Nat :=
  if code < 0x10000 then [code]
  else [0xD800 + (code - 0x10000) / 0x400, 0xDC00 + (code - 0x10000) % 0x400]

/-- The code units of a text. -/
def unitsOf (cs : List Char) : List Nat :=
  cs.flatMap fun c => codeUnits c.toNat

theorem toNat_valid (c : Char) : c.toNat < 0xD800 ∨ 0xDFFF < c.toNat ∧ c.toNat < 0x110000 :=
  c.valid

theorem codeUnits_ne_nil (code : Nat) : codeUnits code ≠ [] := by
  unfold codeUnits
  split_ifs <;> simp

/-- No code unit of a character of the first plane is one of a pair, so that characters are told
apart one after the other. -/
theorem codeUnits_append_inj {c d : Char} {us vs : List Nat}
    (h : codeUnits c.toNat ++ us = codeUnits d.toNat ++ vs) : c = d ∧ us = vs := by
  have hc := toNat_valid c
  have hd := toNat_valid d
  unfold codeUnits at h
  rw [← Char.toNat_inj]
  split_ifs at h <;> simp only [List.cons_append, List.nil_append, List.cons.injEq] at h
  · exact h
  · omega
  · omega
  · exact ⟨by omega, h.2.2⟩

theorem unitsOf_injective : Function.Injective unitsOf := by
  intro cs ds h
  induction cs generalizing ds with
  | nil =>
    cases ds with
    | nil => rfl
    | cons d ds => exact absurd (List.append_eq_nil_iff.mp h.symm).1 (codeUnits_ne_nil _)
  | cons c cs ih =>
    cases ds with
    | nil => exact absurd (List.append_eq_nil_iff.mp h).1 (codeUnits_ne_nil _)
    | cons d ds =>
      obtain ⟨rfl, hrest⟩ := codeUnits_append_inj h
      rw [ih hrest]

/-! ## The grammar -/

/-- The number that hexadecimal digits write. -/
def hexNumber? (digits : List Char) : Option Nat :=
  digits.foldlM (fun value c => (Text.hexValue? c.toNat).map (16 * value + ·)) 0

/-- A number of hexadecimal digits is in front, and the others come behind it. -/
def Digits (count : Nat) (cs : List Char) (value : Nat) (rest : List Char) : Prop :=
  ∃ digits, cs = digits ++ rest ∧ digits.length = count ∧ hexNumber? digits = some value

/-- A code in braces is in front, and the others come behind it. -/
def Braced (cs : List Char) (code : Nat) (rest : List Char) : Prop :=
  ∃ digits, cs = '\x7b' :: (digits ++ '\x7d' :: rest) ∧ digits ≠ [] ∧
    hexNumber? digits = some code ∧ code ≤ 0x10FFFF

/-- What a character behind a backslash writes together with those that follow it: the code units,
and the characters that come behind. A line end writes nothing, and two may count as one. -/
def Escape (c : Char) (cs : List Char) (units : List Nat) (rest : List Char) : Prop :=
  if c = 'u' then
    (∃ value, Digits 4 cs value rest ∧ units = [value]) ∨
      ∃ code, Braced cs code rest ∧ units = codeUnits code
  else if c = 'x' then ∃ value, Digits 2 cs value rest ∧ units = [value]
  else if c = '0' then (∀ d ∈ cs.head?, d.isDigit = false) ∧ units = [0] ∧ rest = cs
  else if isLineEnd c then
    units = [] ∧ if c = '\r' ∧ cs.head? = some '\n' then rest = cs.tail else rest = cs
  else ∃ d, escapedBy? c = some d ∧ units = codeUnits d.toNat ∧ rest = cs

/-- What a character of a literal writes together with those that follow it. A backslash, a quote
and a line end do not stand for themselves; the line and the paragraph separator may. -/
def Piece (separators : Bool) (c : Char) (cs : List Char) (units : List Nat)
    (rest : List Char) : Prop :=
  if c = '\\' then ∃ d ds, cs = d :: ds ∧ Escape d ds units rest
  else c ≠ '"' ∧ (isLineEnd c = true → separators = true ∧ c ≠ '\n' ∧ c ≠ '\r') ∧
    units = codeUnits c.toNat ∧ rest = cs

/-- The pieces of a literal up to the quote that ends it: their code units, and the characters
behind the quote. -/
inductive Inside (separators : Bool) : List Char → List Nat → List Char → Prop
  | quote {rest : List Char} : Inside separators ('"' :: rest) [] rest
  | piece {c : Char} {cs more rest : List Char} {units content : List Nat}
      (hpiece : Piece separators c cs units more) (hmore : Inside separators more content rest) :
      Inside separators (c :: cs) (units ++ content) rest

/-- A text begins with a literal: its content, and what comes behind it. -/
def Lexes (separators : Bool) (text : List Char) (content : List Nat) (rest : List Char) : Prop :=
  ∃ cs, text = '"' :: cs ∧ Inside separators cs content rest

variable {separators : Bool} {c d : Char} {cs ds rest rest' digits : List Char}
  {units units' : List Nat} {value value' count : Nat}

/-! ## One reading at most -/

theorem Digits.unique (h : Digits count cs value rest) (h' : Digits count cs value' rest') :
    value = value' ∧ rest = rest' := by
  obtain ⟨digits, rfl, hlength, hvalue⟩ := h
  obtain ⟨digits', heq, hlength', hvalue'⟩ := h'
  obtain ⟨rfl, rfl⟩ := List.append_inj heq (hlength.trans hlength'.symm)
  exact ⟨Option.some.inj (hvalue.symm.trans hvalue'), rfl⟩

theorem hexValue?_of_mem {start : Nat} (h : digits.foldlM
    (fun value c => (Text.hexValue? c.toNat).map (16 * value + ·)) start = some value)
    (hc : c ∈ digits) : Text.hexValue? c.toNat ≠ none := by
  induction digits generalizing start with
  | nil => cases hc
  | cons d digits ih =>
    rw [List.foldlM_cons, Option.bind_eq_bind, Option.bind_eq_some_iff] at h
    obtain ⟨next, hd, hdigits⟩ := h
    rcases List.mem_cons.mp hc with rfl | hc
    · intro hnone
      rw [hnone] at hd
      cases hd
    · exact ih hdigits hc

/-- A number of digits does not begin with a brace. -/
theorem Digits.not_braced (h : Digits count cs value rest) (hcount : count ≠ 0)
    (h' : Braced cs value' rest') : False := by
  obtain ⟨digits, rfl, hlength, hvalue⟩ := h
  obtain ⟨digits', heq, -⟩ := h'
  cases digits with
  | nil => exact hcount hlength.symm
  | cons d digits =>
    obtain ⟨rfl, -⟩ := List.cons.inj heq
    exact hexValue?_of_mem hvalue List.mem_cons_self rfl

theorem Braced.unique (h : Braced cs value rest) (h' : Braced cs value' rest') :
    value = value' ∧ rest = rest' := by
  obtain ⟨digits, rfl, -, hvalue, -⟩ := h
  obtain ⟨digits', heq, -, hvalue', -⟩ := h'
  have hbrace {ds : List Char} {n : Nat} (hds : hexNumber? ds = some n) : '\x7d' ∉ ds :=
    fun hmem => hexValue?_of_mem hds hmem rfl
  have htail := (List.cons.inj heq).2
  have hsplit := congrArg (List.splitOn '\x7d') htail
  rw [List.splitOn_append_cons_self_of_not_mem (hbrace hvalue),
    List.splitOn_append_cons_self_of_not_mem (hbrace hvalue')] at hsplit
  obtain rfl := (List.cons.inj hsplit).1
  obtain rfl := (List.cons.inj (List.append_cancel_left htail)).2
  exact ⟨Option.some.inj (hvalue.symm.trans hvalue'), rfl⟩

theorem Escape.unique (h : Escape c cs units rest) (h' : Escape c cs units' rest') :
    units = units' ∧ rest = rest' := by
  unfold Escape at h h'
  split_ifs at h h' with hu hx hzero hend hpair
  · -- four digits, or a code in braces
    rcases h with ⟨value, hvalue, rfl⟩ | ⟨code, hcode, rfl⟩ <;>
      rcases h' with ⟨value', hvalue', rfl⟩ | ⟨code', hcode', rfl⟩
    · obtain ⟨rfl, rfl⟩ := hvalue.unique hvalue'
      exact ⟨rfl, rfl⟩
    · exact (hvalue.not_braced (by decide) hcode').elim
    · exact (hvalue'.not_braced (by decide) hcode).elim
    · obtain ⟨rfl, rfl⟩ := hcode.unique hcode'
      exact ⟨rfl, rfl⟩
  · obtain ⟨value, hvalue, rfl⟩ := h
    obtain ⟨value', hvalue', rfl⟩ := h'
    obtain ⟨rfl, rfl⟩ := hvalue.unique hvalue'
    exact ⟨rfl, rfl⟩
  · exact ⟨h.2.1.trans h'.2.1.symm, h.2.2.trans h'.2.2.symm⟩
  · exact ⟨h.1.trans h'.1.symm, h.2.trans h'.2.symm⟩
  · exact ⟨h.1.trans h'.1.symm, h.2.trans h'.2.symm⟩
  · obtain ⟨d, hd, rfl, rfl⟩ := h
    obtain ⟨d', hd', rfl, rfl⟩ := h'
    obtain rfl := Option.some.inj (hd.symm.trans hd')
    exact ⟨rfl, rfl⟩

theorem Piece.unique (h : Piece separators c cs units rest)
    (h' : Piece separators c cs units' rest') : units = units' ∧ rest = rest' := by
  unfold Piece at h h'
  split_ifs at h h'
  · obtain ⟨d, ds, rfl, hescape⟩ := h
    obtain ⟨d', ds', heq, hescape'⟩ := h'
    obtain ⟨rfl, rfl⟩ := List.cons.inj heq
    exact hescape.unique hescape'
  · exact ⟨h.2.2.1.trans h'.2.2.1.symm, h.2.2.2.trans h'.2.2.2.symm⟩

theorem not_piece_quote : ¬Piece separators '"' cs units rest := fun h => h.1 rfl

theorem Inside.unique (h : Inside separators cs units rest)
    (h' : Inside separators cs units' rest') : units = units' ∧ rest = rest' := by
  induction h generalizing units' rest' with
  | quote =>
    cases h' with
    | quote => exact ⟨rfl, rfl⟩
    | piece hpiece _ => exact (not_piece_quote hpiece).elim
  | piece hpiece _ ih =>
    cases h' with
    | quote => exact (not_piece_quote hpiece).elim
    | piece hpiece' hmore' =>
      obtain ⟨rfl, rfl⟩ := hpiece.unique hpiece'
      obtain ⟨rfl, rfl⟩ := ih hmore'
      exact ⟨rfl, rfl⟩

/-- **A text begins with at most one literal**, which has one content. -/
theorem lexes_unique (h : Lexes separators cs units rest) (h' : Lexes separators cs units' rest') :
    units = units' ∧ rest = rest' := by
  obtain ⟨ds, rfl, hinside⟩ := h
  obtain ⟨ds', heq, hinside'⟩ := h'
  obtain rfl := (List.cons.inj heq).2
  exact hinside.unique hinside'

/-! ## Written literals -/

theorem digits_fourDigits_of_lt : ∀ n < 0xA0,
    (fourDigits (Char.ofNat n)).length = 4 ∧ hexNumber? (fourDigits (Char.ofNat n)) = some n := by
  decide +kernel

/-- A control character or a separator has four digits, which write its code. -/
theorem digits_fourDigits (rest : List Char)
    (h : Text.isControl c = true ∨ c = '\u2028' ∨ c = '\u2029') :
    Digits 4 (fourDigits c ++ rest) c.toNat rest := by
  have hdigits : (fourDigits c).length = 4 ∧ hexNumber? (fourDigits c) = some c.toNat := by
    rcases h with h | rfl | rfl
    · have hcode : c.toNat < 0xA0 := by
        simp only [Text.isControl, Bool.or_eq_true, Bool.and_eq_true, decide_eq_true_eq] at h
        omega
      have hall := digits_fourDigits_of_lt c.toNat hcode
      rwa [Char.ofNat_toNat] at hall
    · decide +kernel
    · decide +kernel
  exact ⟨fourDigits c, rfl, hdigits.1, hdigits.2⟩

/-- A character that one other character writes behind a backslash. -/
theorem escape_of_escapedBy (cs : List Char) (h : escapedBy? d = some c)
    (hd : d ≠ 'u' ∧ d ≠ 'x' ∧ d ≠ '0' ∧ isLineEnd d = false) :
    Escape d cs (codeUnits c.toNat) cs := by
  obtain ⟨hu, hx, hzero, hend⟩ := hd
  rw [Escape, if_neg hu, if_neg hx, if_neg hzero, if_neg (by rw [hend]; decide)]
  exact ⟨c, h, rfl, rfl⟩

/-- A control character or a separator, which its code writes. -/
theorem escape_fourDigits (cs : List Char)
    (h : Text.isControl c = true ∨ c = '\u2028' ∨ c = '\u2029') :
    Escape 'u' (fourDigits c ++ cs) (codeUnits c.toNat) cs := by
  have hplane : c.toNat < 0x10000 := by
    rcases h with h | rfl | rfl
    · simp only [Text.isControl, Bool.or_eq_true, Bool.and_eq_true, decide_eq_true_eq] at h
      omega
    · decide
    · decide
  rw [codeUnits, if_pos hplane]
  exact .inl ⟨c.toNat, digits_fourDigits cs h, rfl⟩

theorem inside_escape {content : List Nat} (h : Escape d ds units cs)
    (hmore : Inside separators cs content rest) :
    Inside separators ('\\' :: d :: ds) (units ++ content) rest :=
  .piece ⟨d, ds, rfl, h⟩ hmore

theorem inside_escapedChar {content : List Nat} (hmore : Inside separators cs content rest) :
    Inside separators (escapedChar c ++ cs) (codeUnits c.toNat ++ content) rest := by
  unfold escapedChar
  split_ifs with h1 h2 h3 h4 h5
  · rcases h1 with rfl | rfl
    · exact inside_escape (escape_of_escapedBy cs rfl (by decide)) hmore
    · exact inside_escape (escape_of_escapedBy cs rfl (by decide)) hmore
  · rw [h2]
    exact inside_escape (escape_of_escapedBy cs rfl (by decide)) hmore
  · rw [h3]
    exact inside_escape (escape_of_escapedBy cs rfl (by decide)) hmore
  · rw [h4]
    exact inside_escape (escape_of_escapedBy cs rfl (by decide)) hmore
  · exact inside_escape (escape_fourDigits cs h5) hmore
  · refine .piece ?_ hmore
    rw [Piece, if_neg fun h => h1 (.inr h)]
    refine ⟨fun h => h1 (.inl h), fun hend => ?_, rfl, rfl⟩
    simp only [isLineEnd, Bool.or_eq_true, beq_iff_eq] at hend
    rcases hend with ((h | h) | h) | h
    · exact absurd h h2
    · exact absurd h h3
    · exact absurd (.inr (.inl h)) h5
    · exact absurd (.inr (.inr h)) h5

theorem inside_escaped (cs rest : List Char) :
    Inside separators (escaped cs ++ '"' :: rest) (unitsOf cs) rest := by
  induction cs with
  | nil => exact .quote
  | cons c cs ih =>
    rw [escaped, unitsOf, List.flatMap_cons, List.append_assoc]
    split_ifs with h
    · rw [h.1]
      exact inside_escape (escape_of_escapedBy _ rfl (by decide)) ih
    · exact inside_escapedChar ih

theorem toList_text (s : String) : (text s).toList = '"' :: (escaped s.toList ++ ['"']) := by
  simp [text]

/-- **A written literal is read as its text**, and what follows it is left. -/
theorem lexes_of_text (separators : Bool) (s : String) (rest : List Char) :
    Lexes separators ((text s).toList ++ rest) (unitsOf s.toList) rest := by
  refine ⟨escaped s.toList ++ '"' :: rest, ?_, inside_escaped s.toList rest⟩
  rw [toList_text, List.cons_append, List.append_assoc, List.singleton_append]

/-! ## Characters of a literal -/

/-- A character that is no control character and does not separate lines or paragraphs. -/
def IsPlain (c : Char) : Prop :=
  Text.isControl c = false ∧ c ≠ '\u2028' ∧ c ≠ '\u2029'

instance (c : Char) : Decidable (IsPlain c) := instDecidableAnd

theorem isPlain_of_hexValue? (h : Text.hexValue? c.toNat ≠ none) : IsPlain c := by
  have hcode : 0x30 ≤ c.toNat ∧ c.toNat ≤ 0x66 := by
    unfold Text.hexValue? at h
    split_ifs at h
    · omega
    · omega
    · omega
    · exact absurd rfl h
  refine ⟨?_, ?_, ?_⟩
  · simp only [Text.isControl, Bool.or_eq_false_iff, Bool.and_eq_false_imp, decide_eq_true_eq,
      decide_eq_false_iff_not]
    omega
  · rintro rfl
    exact absurd hcode.2 (by decide)
  · rintro rfl
    exact absurd hcode.2 (by decide)

theorem isPlain_of_mem_pair {e : Char} (he : IsPlain e) (h : d ∈ ['\\', e]) : IsPlain d := by
  rcases List.mem_cons.mp h with rfl | h
  · decide
  · exact List.mem_singleton.mp h ▸ he

theorem isPlain_of_mem_escapedChar (h : d ∈ escapedChar c) : IsPlain d := by
  unfold escapedChar at h
  split_ifs at h with h1 h2 h3 h4 h5
  · rcases h1 with rfl | rfl
    · exact isPlain_of_mem_pair (by decide) h
    · exact isPlain_of_mem_pair (by decide) h
  · exact isPlain_of_mem_pair (by decide) h
  · exact isPlain_of_mem_pair (by decide) h
  · exact isPlain_of_mem_pair (by decide) h
  · rcases List.mem_append.mp h with h | h
    · exact isPlain_of_mem_pair (by decide) h
    · obtain ⟨digits, heq, -, hvalue⟩ := digits_fourDigits [] h5
      rw [List.append_nil, List.append_nil] at heq
      exact isPlain_of_hexValue? (hexValue?_of_mem hvalue (heq ▸ h))
  · obtain rfl := List.mem_singleton.mp h
    rw [not_or, not_or, Bool.not_eq_true] at h5
    exact h5

theorem isPlain_of_mem_escaped (h : d ∈ escaped cs) : IsPlain d := by
  induction cs with
  | nil => cases h
  | cons c cs ih =>
    rw [escaped] at h
    rcases List.mem_append.mp h with h | h
    · split_ifs at h
      · exact isPlain_of_mem_pair (by decide) h
      · exact isPlain_of_mem_escapedChar h
    · exact ih h

theorem isPlain_of_mem_text {s : String} (h : c ∈ (text s).toList) : IsPlain c := by
  rw [toList_text] at h
  rcases List.mem_cons.mp h with rfl | h
  · decide
  · rcases List.mem_append.mp h with h | h
    · exact isPlain_of_mem_escaped h
    · obtain rfl := List.mem_singleton.mp h
      decide

/-- **A literal says where it ends and what it means.** Whatever follows a written literal, the
grammar gives exactly one literal in front, of which the content is the text, and leaves what
follows. A literal holds no control character and no separator of lines or paragraphs, and two
texts are never written as the same literal. -/
theorem lexes_text (separators : Bool) (s : String) :
    (∀ (following : String) (content : List Nat) (rest : List Char),
      Lexes separators (text s ++ following).toList content rest ↔
        content = unitsOf s.toList ∧ rest = following.toList) ∧
    (∀ c ∈ (text s).toList, Text.isControl c = false ∧ c ≠ '\u2028' ∧ c ≠ '\u2029') ∧
    (∀ t : String, unitsOf t.toList = unitsOf s.toList → t = s) ∧
    Function.Injective text := by
  refine ⟨fun following content rest => ?_, fun c => isPlain_of_mem_text, fun t h => ?_,
    fun a b h => ?_⟩
  · have hread := lexes_of_text separators s following.toList
    rw [String.toList_append]
    constructor
    · exact fun h => lexes_unique h hread
    · rintro ⟨rfl, rfl⟩
      exact hread
  · exact String.toList_inj.mp (unitsOf_injective h)
  · have ha := lexes_of_text true a []
    rw [h] at ha
    exact String.toList_inj.mp (unitsOf_injective (lexes_unique ha (lexes_of_text true b [])).1)

end SessionReplay.Script.Literal
