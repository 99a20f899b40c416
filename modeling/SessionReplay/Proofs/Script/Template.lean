import Mathlib.Algebra.Ring.Parity
import Mathlib.Data.List.DropRight
import SessionReplay.Proofs.Script.Lexing

/-!
# String literals in templates

A template stands between backquotes. A dollar sign before a brace opens a substitution in it,
unless a backslash escapes the dollar sign; the other escapes are those of a string literal. A
template without substitutions has a cooked content, in UTF-16 code units.

* `Template.Piece`, `Template.Reads`, `Template.Lexes` — the grammar;
* `Template.Reads.comparable`: a text is read in one way only, up to where one stops;
* `Template.Inert`, `inert_text`: in a literal a backslash stands open before every dollar sign
  with a brace;
* **`inert_in_template`**: a literal opens no substitution, and its characters are a template of
  its text.
-/

namespace SessionReplay.Script.Template

open Literal

/-! ## The grammar -/

/-- The sign at both ends of a template. -/
def backquote : Char := '\u0060'

/-- What a character of a template writes together with those that follow it. A carriage return
counts as a line feed, also together with one. No backquote stands for itself, and no dollar sign
before a brace. -/
def Piece (c : Char) (cs : List Char) (units : List Nat) (rest : List Char) : Prop :=
  if c = '\\' then ∃ d ds, cs = d :: ds ∧ Escape d ds units rest
  else if c = '\r' then
    units = [0x0A] ∧ if cs.head? = some '\n' then rest = cs.tail else rest = cs
  else c ≠ backquote ∧ (c = '$' → cs.head? ≠ some '\x7b') ∧
    units = codeUnits c.toNat ∧ rest = cs

/-- Some pieces of a template in front: their cooked content, and the characters behind them. -/
inductive Reads : List Char → List Nat → List Char → Prop
  | stop (cs : List Char) : Reads cs [] cs
  | piece {c : Char} {cs more rest : List Char} {units content : List Nat}
      (hpiece : Piece c cs units more) (hmore : Reads more content rest) :
      Reads (c :: cs) (units ++ content) rest

/-- A text begins with a template without substitutions: its cooked content, and what comes behind
it. -/
def Lexes (text : List Char) (content : List Nat) (rest : List Char) : Prop :=
  ∃ cs, text = backquote :: cs ∧ Reads cs content (backquote :: rest)

variable {c d : Char} {cs ds more rest rest' : List Char} {units units' content : List Nat}

/-! ## One reading at most -/

theorem Piece.unique (h : Piece c cs units rest) (h' : Piece c cs units' rest') :
    units = units' ∧ rest = rest' := by
  unfold Piece at h h'
  split_ifs at h h'
  · obtain ⟨d, ds, rfl, hescape⟩ := h
    obtain ⟨d', ds', heq, hescape'⟩ := h'
    obtain ⟨rfl, rfl⟩ := List.cons.inj heq
    exact hescape.unique hescape'
  · exact ⟨h.1.trans h'.1.symm, h.2.trans h'.2.symm⟩
  · exact ⟨h.1.trans h'.1.symm, h.2.trans h'.2.symm⟩
  · exact ⟨h.2.2.1.trans h'.2.2.1.symm, h.2.2.2.trans h'.2.2.2.symm⟩

/-- Of two readings of a text one goes on where the other stops. -/
theorem Reads.comparable (h : Reads cs units rest) (h' : Reads cs units' rest') :
    (∃ later, units' = units ++ later ∧ Reads rest later rest') ∨
      ∃ later, units = units' ++ later ∧ Reads rest' later rest := by
  induction h generalizing units' rest' with
  | stop cs => exact .inl ⟨units', rfl, h'⟩
  | piece hpiece hmore ih =>
    cases h' with
    | stop => exact .inr ⟨_, rfl, .piece hpiece hmore⟩
    | piece hpiece' hmore' =>
      obtain ⟨rfl, rfl⟩ := hpiece.unique hpiece'
      rcases ih hmore' with ⟨later, rfl, hlater⟩ | ⟨later, rfl, hlater⟩
      · exact .inl ⟨later, (List.append_assoc ..).symm, hlater⟩
      · exact .inr ⟨later, (List.append_assoc ..).symm, hlater⟩

/-- The signs at which the pieces of a template end: a backquote, or a dollar sign and a brace. -/
def Ends (cs : List Char) : Prop :=
  cs.head? = some backquote ∨ ∃ rest, cs = '$' :: '\x7b' :: rest

theorem Ends.not_piece (h : Ends (c :: cs)) : ¬Piece c cs units rest := by
  rcases h with h | ⟨more, h⟩
  · obtain rfl := Option.some.inj h
    intro hpiece
    exact hpiece.1 rfl
  · obtain ⟨rfl, rfl⟩ := List.cons.inj h
    intro hpiece
    exact hpiece.2.1 rfl rfl

theorem Ends.reads (h : Ends cs) (hreads : Reads cs units rest) : units = [] ∧ rest = cs := by
  cases hreads with
  | stop => exact ⟨rfl, rfl⟩
  | piece hpiece _ => exact absurd hpiece h.not_piece

/-- The pieces of a text end in one place. -/
theorem Reads.unique (h : Reads cs units rest) (h' : Reads cs units' rest') (hrest : Ends rest)
    (hrest' : Ends rest') : units = units' ∧ rest = rest' := by
  rcases h.comparable h' with ⟨later, rfl, hlater⟩ | ⟨later, rfl, hlater⟩
  · obtain ⟨rfl, rfl⟩ := hrest.reads hlater
    exact ⟨(List.append_nil _).symm, rfl⟩
  · obtain ⟨rfl, rfl⟩ := hrest'.reads hlater
    exact ⟨List.append_nil _, rfl⟩

theorem Reads.append (h : Reads cs units more) (h' : Reads more content rest) :
    Reads cs (units ++ content) rest := by
  induction h with
  | stop cs => exact h'
  | piece hpiece _ ih =>
    rw [List.append_assoc]
    exact .piece hpiece (ih h')

/-! ## What comes behind -/

theorem suffix_of_escape (h : Escape d ds units rest) : rest <:+ ds := by
  unfold Escape at h
  split_ifs at h with hu hx hzero hend hpair
  · rcases h with ⟨value, ⟨digits, rfl, -⟩, -⟩ | ⟨code, ⟨digits, rfl, -⟩, -⟩
    · exact List.suffix_append digits rest
    · exact ⟨'\x7b' :: (digits ++ ['\x7d']), by simp⟩
  · obtain ⟨value, ⟨digits, rfl, -⟩, -⟩ := h
    exact List.suffix_append digits rest
  · exact h.2.2 ▸ List.suffix_rfl
  · exact h.2 ▸ List.tail_suffix ds
  · exact h.2 ▸ List.suffix_rfl
  · obtain ⟨d, -, -, rfl⟩ := h
    exact List.suffix_rfl

theorem Piece.suffix (h : Piece c cs units rest) : rest <:+ cs := by
  unfold Piece at h
  split_ifs at h
  · obtain ⟨d, ds, rfl, hescape⟩ := h
    exact (suffix_of_escape hescape).trans (List.suffix_cons d ds)
  · exact h.2 ▸ List.tail_suffix cs
  · exact h.2 ▸ List.suffix_rfl
  · exact h.2.2.2 ▸ List.suffix_rfl

theorem Reads.suffix (h : Reads cs units rest) : rest <:+ cs := by
  induction h with
  | stop cs => exact List.suffix_rfl
  | piece hpiece _ ih => exact (ih.trans hpiece.suffix).trans (List.suffix_cons _ _)

/-! ## Literals as pieces of a template -/

theorem reads_escape (h : Escape d ds units cs) (hmore : Reads cs content rest) :
    Reads ('\\' :: d :: ds) (units ++ content) rest :=
  .piece ⟨d, ds, rfl, h⟩ hmore

theorem reads_escapedChar (hc : c ≠ backquote) (hdollar : c = '$' → cs.head? ≠ some '\x7b')
    (hmore : Reads cs content rest) :
    Reads (escapedChar c ++ cs) (codeUnits c.toNat ++ content) rest := by
  unfold escapedChar
  split_ifs with h1 h2 h3 h4 h5
  · rcases h1 with rfl | rfl
    · exact reads_escape (escape_of_escapedBy cs rfl (by decide)) hmore
    · exact reads_escape (escape_of_escapedBy cs rfl (by decide)) hmore
  · rw [h2]
    exact reads_escape (escape_of_escapedBy cs rfl (by decide)) hmore
  · rw [h3]
    exact reads_escape (escape_of_escapedBy cs rfl (by decide)) hmore
  · rw [h4]
    exact reads_escape (escape_of_escapedBy cs rfl (by decide)) hmore
  · exact reads_escape (escape_fourDigits cs h5) hmore
  · refine .piece ?_ hmore
    rw [Piece, if_neg fun h => h1 (.inr h), if_neg h3]
    exact ⟨hc, hdollar, rfl, rfl⟩

theorem head?_escapedChar_append (h : (escapedChar c ++ ds).head? = some '\x7b') :
    c = '\x7b' := by
  unfold escapedChar at h
  split_ifs at h <;> simp_all

/-- A brace in front of escaped characters is a brace of the text. -/
theorem head?_escaped_append (h : (escaped cs ++ ds).head? = some '\x7b')
    (hds : ds.head? ≠ some '\x7b') : cs.head? = some '\x7b' := by
  cases cs with
  | nil => exact absurd h hds
  | cons c cs =>
    rw [escaped, List.append_assoc] at h
    split_ifs at h
    · cases h
    · exact congrArg some (head?_escapedChar_append h)

/-- The characters of a literal are pieces of a template, if the text has no backquote. -/
theorem reads_escaped (hcs : backquote ∉ cs) (hds : ds.head? ≠ some '\x7b') :
    Reads (escaped cs ++ ds) (unitsOf cs) ds := by
  induction cs with
  | nil => exact .stop ds
  | cons c cs ih =>
    obtain ⟨hc, hcs⟩ := not_or.mp (mt List.mem_cons.mpr hcs)
    rw [escaped, unitsOf, List.flatMap_cons, List.append_assoc]
    split_ifs with h
    · rw [h.1]
      exact reads_escape (escape_of_escapedBy _ rfl (by decide)) (ih hcs)
    · apply reads_escapedChar (Ne.symm hc) _ (ih hcs)
      intro hdollar hbrace
      exact h ⟨hdollar, head?_escaped_append hbrace hds⟩

theorem escaped_append (hds : ds.head? ≠ some '\x7b') :
    escaped (cs ++ ds) = escaped cs ++ escaped ds := by
  induction cs with
  | nil => rfl
  | cons c cs ih =>
    have hhead : (cs ++ ds).head? = some '\x7b' ↔ cs.head? = some '\x7b' := by
      cases cs with
      | nil => exact iff_of_false hds (by decide)
      | cons d cs => exact Iff.rfl
    rw [List.cons_append, escaped, escaped, ih, List.append_assoc]
    simp only [hhead]

theorem piece_quote (cs : List Char) : Piece '"' cs (codeUnits '"'.toNat) cs :=
  ⟨by decide, fun h => absurd h (by decide), rfl, rfl⟩

/-- A template that holds a literal goes on behind it, or it ends at a backquote of the literal. -/
theorem reads_text (s : String) (ds : List Char) :
    ∃ content rest, Reads ((text s).toList ++ ds) content rest ∧
      (rest = ds ∨ rest.head? = some backquote) := by
  rw [toList_text, List.cons_append, List.append_assoc, List.singleton_append]
  by_cases hs : backquote ∈ s.toList
  · obtain ⟨front, behind, heq, hfront⟩ := List.eq_append_cons_of_mem hs
    have hescaped : escaped (backquote :: behind) = backquote :: escaped behind := rfl
    rw [heq, escaped_append (by simp [backquote]), hescaped, List.append_assoc]
    exact ⟨_, _, .piece (piece_quote _) (reads_escaped hfront (by simp [backquote])), .inr rfl⟩
  · have hquote : Reads ('"' :: ds) (codeUnits '"'.toNat ++ []) ds :=
      .piece (piece_quote ds) (.stop ds)
    exact ⟨_, ds, .piece (piece_quote _) ((reads_escaped hs (by simp)).append hquote), .inl rfl⟩

/-! ## Backslashes -/

/-- A character behind an open backslash is not one itself. -/
def opens (behind : Bool) (c : Char) : Bool :=
  !behind && c == '\\'

/-- A backslash stands open at the end of a text when an odd number of them stand there. -/
theorem foldl_opens_iff (cs : List Char) :
    cs.foldl opens false = true ↔ Odd (cs.rtakeWhile (· == '\\')).length := by
  induction cs using List.reverseRecOn with
  | nil => simp
  | append_singleton cs c ih =>
    rw [List.foldl_append, List.foldl_cons, List.foldl_nil]
    by_cases hc : (c == '\\') = true
    · rw [List.rtakeWhile_concat_pos (· == '\\') cs c hc, List.length_append,
        List.length_singleton, Nat.odd_add_one, ← ih, opens, hc]
      simp
    · rw [List.rtakeWhile_concat_neg (· == '\\') cs c hc]
      simp [opens, hc]

/-- Before a dollar sign with a brace a backslash stands open. `behind` says whether one stands open
in front of the text. -/
def Inert (behind : Bool) : List Char → Prop
  | [] => True
  | c :: cs => (c = '$' → cs.head? = some '\x7b' → behind = true) ∧ Inert (opens behind c) cs

theorem Inert.behind {behind : Bool} {before after : List Char}
    (h : Inert behind (before ++ '$' :: '\x7b' :: after)) :
    before.foldl opens behind = true := by
  induction before generalizing behind with
  | nil => exact h.1 rfl rfl
  | cons c before ih => exact ih h.2

theorem inert_pair (hds : Inert false ds) : Inert false ('\\' :: d :: ds) :=
  ⟨fun h => absurd h (by decide), fun _ _ => rfl, hds⟩

theorem inert_append (hcs : ∀ c ∈ cs, c ≠ '$' ∧ c ≠ '\\') (hds : Inert false ds) :
    Inert false (cs ++ ds) := by
  induction cs with
  | nil => exact hds
  | cons c cs ih =>
    obtain ⟨hc, hcs⟩ := List.forall_mem_cons.mp hcs
    have hclosed : opens false c = false := by simpa [opens] using hc.2
    refine ⟨fun h => absurd h hc.1, ?_⟩
    rw [hclosed]
    exact ih hcs

theorem inert_escapedChar (hdollar : c = '$' → ds.head? ≠ some '\x7b') (hds : Inert false ds) :
    Inert false (escapedChar c ++ ds) := by
  unfold escapedChar
  split_ifs with h1 h2 h3 h4 h5
  · exact inert_pair hds
  · exact inert_pair hds
  · exact inert_pair hds
  · exact inert_pair hds
  · refine inert_pair (inert_append (fun d hd => ?_) hds)
    obtain ⟨digits, heq, -, hvalue⟩ := digits_fourDigits [] h5
    rw [List.append_nil, List.append_nil] at heq
    have hdigit := hexValue?_of_mem hvalue (heq ▸ hd)
    constructor <;> rintro rfl <;> exact hdigit rfl
  · have hclosed : opens false c = false := by simpa [opens] using fun h => h1 (.inr h)
    refine ⟨fun hc hbrace => absurd hbrace (hdollar hc), ?_⟩
    rw [hclosed]
    exact hds

theorem inert_escaped (cs : List Char) (hbrace : ds.head? ≠ some '\x7b') (hds : Inert false ds) :
    Inert false (escaped cs ++ ds) := by
  induction cs with
  | nil => exact hds
  | cons c cs ih =>
    rw [escaped, List.append_assoc]
    split_ifs with h
    · exact inert_pair ih
    · exact inert_escapedChar (fun hc hhead => h ⟨hc, head?_escaped_append hhead hbrace⟩) ih

theorem inert_text (s : String) : Inert false (text s).toList := by
  have hend : Inert false ['"'] := ⟨fun h => absurd h (by decide), trivial⟩
  have hinner : Inert false (escaped s.toList ++ ['"']) := inert_escaped s.toList (by decide) hend
  rw [toList_text]
  exact ⟨fun h => absurd h (by decide), hinner⟩

/-! ## Literals in templates -/

/-- **A literal stays inert in a template.** The dollar sign of every dollar sign with a brace in it
stands behind an odd number of backslashes, so that no substitution opens where a template holds a
literal, whatever follows. Between backquotes in place of its quotes, the literal of a text without
backquotes is one template without substitutions, the cooked content of which is the text. -/
theorem inert_in_template (s : String) :
    (∀ before after, (text s).toList = before ++ '$' :: '\x7b' :: after →
      Odd (before.rtakeWhile (· == '\\')).length) ∧
    (∀ following content rest,
      Reads ((text s).toList ++ following) content ('$' :: '\x7b' :: rest) →
        '$' :: '\x7b' :: rest <:+ following) ∧
    (backquote ∉ s.toList →
      ∃ inner, (text s).toList = '"' :: (inner ++ ['"']) ∧
        ∀ following content rest, Lexes (backquote :: (inner ++ backquote :: following)) content rest ↔
          content = unitsOf s.toList ∧ rest = following) := by
  refine ⟨fun before after heq => ?_, fun following content rest hreads => ?_, fun hs => ?_⟩
  · have hinert := inert_text s
    rw [heq] at hinert
    exact (foldl_opens_iff before).mp hinert.behind
  · have hends : Ends ('$' :: '\x7b' :: rest) := .inr ⟨rest, rfl⟩
    obtain ⟨_, stop, htext, hstop⟩ := reads_text s following
    rcases hreads.comparable htext with ⟨later, -, hlater⟩ | ⟨later, -, hlater⟩
    · obtain ⟨-, rfl⟩ := hends.reads hlater
      rcases hstop with rfl | hstop
      · exact List.suffix_rfl
      · exact absurd (Option.some.inj hstop) (by decide)
    · rcases hstop with rfl | hstop
      · exact hlater.suffix
      · have hsame := (Ends.reads (.inl hstop) hlater).2
        rw [← hsame] at hstop
        exact absurd (Option.some.inj hstop) (by decide)
  · refine ⟨escaped s.toList, toList_text s, fun following content rest => ?_⟩
    have hread : Reads (escaped s.toList ++ backquote :: following) (unitsOf s.toList)
        (backquote :: following) := reads_escaped hs (by simp [backquote])
    constructor
    · rintro ⟨cs, heq, hcs⟩
      obtain rfl := (List.cons.inj heq).2
      obtain ⟨rfl, hrest⟩ := hcs.unique hread (.inl rfl) (.inl rfl)
      exact ⟨rfl, (List.cons.inj hrest).2⟩
    · rintro ⟨rfl, rfl⟩
      exact ⟨_, rfl, hread⟩

/-- A backslash and a dollar sign before a brace. -/
theorem inert_in_template_dollar :
    (text "\\$\x7b").toList = ['"', '\\', '\\', '\\'] ++ '$' :: '\x7b' :: ['"'] ∧
      Odd (['"', '\\', '\\', '\\'].rtakeWhile (· == '\\')).length ∧
      backquote ∉ "\\$\x7b".toList ∧
      ∃ inner, (text "\\$\x7b").toList = '"' :: (inner ++ ['"']) ∧
        ∀ following content rest,
          Lexes (backquote :: (inner ++ backquote :: following)) content rest ↔
            content = unitsOf "\\$\x7b".toList ∧ rest = following :=
  ⟨by decide, (inert_in_template "\\$\x7b").1 _ ['"'] (by decide), by decide,
    (inert_in_template "\\$\x7b").2.2 (by decide)⟩

end SessionReplay.Script.Template
