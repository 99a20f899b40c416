import SessionReplay.Json.Skip
import SessionReplay.Proofs.Json.Number

/-!
# Well-formed values

* `Member` — a key and a value of an object, as they are written;
* `Value` — the form of a value, to any depth;
* `skipFrom_continued`, `skipFrom_listed`: what is between brackets is passed over if the items are;
* **`skipFrom_value`**: every well-formed value is passed over.
-/

namespace SessionReplay.Json

/-- A key and a value, with the white space on both sides of the colon. -/
structure Member where
  key : List UInt8
  before : List UInt8
  after : List UInt8
  value : List UInt8

/-- The bytes of a key and a value. -/
def Member.bytes (m : Member) : List UInt8 :=
  m.key ++ (m.before ++ ':'.toUInt8 :: (m.after ++ m.value))

/-- **The form of a value.** -/
inductive Value : List UInt8 → Prop
  | word {w : String} : w ∈ ["null", "true", "false"] → Value (Text.bytes w)
  | number {l : Literal} {v : List UInt8} : l.Writes v → Value v
  | text {v : List UInt8} : RawText v → Value v
  | list {vs : List (List UInt8)} {body : List UInt8} :
    (∀ v ∈ vs, Value v) → Listed ']'.toUInt8 vs body → Value ('['.toUInt8 :: body)
  | object {members : List Member} {body : List UInt8} :
    (∀ m ∈ members, RawText m.key ∧ Blanks m.before ∧ Blanks m.after) →
      (∀ m ∈ members, Value m.value) →
        Listed '\x7d'.toUInt8 (members.map Member.bytes) body → Value ('\x7b'.toUInt8 :: body)

variable {ws v rest r s tail body : List UInt8} {vs : List (List UInt8)} {b : UInt8}
  {frame : Frame} {frames : List Frame}

theorem begun_of_rawText (h : RawText v) : Begun v := by
  obtain ⟨pieces, -, rfl⟩ := h
  exact ⟨_, _, rfl, rfl⟩

theorem begun_of_value (h : Value v) : Begun v := by
  cases h with
  | word hw =>
    simp only [List.mem_cons, List.not_mem_nil, or_false] at hw
    rcases hw with rfl | rfl | rfl <;> exact ⟨_, _, rfl, rfl⟩
  | number hl => exact begun_of_literal hl
  | text ht => exact begun_of_rawText ht
  | list | object => exact ⟨_, _, rfl, rfl⟩

/-! ## Single steps -/

theorem skipFrom_closing (h : Reader.dropBlanks s = frame.brackets.closing :: r) :
    skipFrom .done (frame :: frames) s = skipFrom .done frames r := by
  rw [skipFrom]
  split
  next h' => cases h.symm.trans h'
  next h' =>
    cases h.symm.trans h'
    rw [if_pos rfl]

theorem skipFrom_comma (h : Reader.dropBlanks s = ','.toUInt8 :: rest)
    (hlabel : frame.skipLabel.run rest = .ok ((), r)) :
    skipFrom .done (frame :: frames) s = skipFrom .value (frame :: frames) r := by
  have hne : ','.toUInt8 ≠ frame.brackets.closing := by cases frame <;> decide
  rw [skipFrom]
  split
  next h' => cases h.symm.trans h'
  next h' =>
    cases h.symm.trans h'
    rw [if_neg hne, if_pos rfl]
    split
    next hl => cases hlabel.symm.trans hl
    next hl =>
      cases hlabel.symm.trans hl
      rfl

theorem skipFrom_none (h : Reader.dropBlanks s = frame.brackets.closing :: r) :
    skipFrom .opened (frame :: frames) s = skipFrom .done frames r := by
  rw [skipFrom]
  split
  next h' => cases h.symm.trans h'
  next h' =>
    cases h.symm.trans h'
    rw [if_pos rfl]

theorem skipFrom_first (h : Reader.dropBlanks s = b :: tail) (hb : b ≠ frame.brackets.closing)
    (hlabel : frame.skipLabel.run (b :: tail) = .ok ((), r)) :
    skipFrom .opened (frame :: frames) s = skipFrom .value (frame :: frames) r := by
  rw [skipFrom]
  split
  next h' => cases h.symm.trans h'
  next h' =>
    cases h.symm.trans h'
    rw [if_neg hb]
    split
    next hl => cases hlabel.symm.trans hl
    next hl =>
      cases hlabel.symm.trans hl
      rfl

theorem skipFrom_opening (h : Reader.dropBlanks s = b :: tail)
    (hb : b = '['.toUInt8 ∧ frame = .list ∨ b = '\x7b'.toUInt8 ∧ frame = .object) :
    skipFrom .value frames s = skipFrom .opened (frame :: frames) tail := by
  conv_lhs => rw [skipFrom]
  split
  next h' => cases h.symm.trans h'
  next h' =>
    cases h.symm.trans h'
    obtain ⟨rfl, rfl⟩ | ⟨rfl, rfl⟩ := hb
    · rw [if_pos rfl]
    · rw [if_neg (by decide), if_pos rfl]

theorem skipFrom_scalar (h : Reader.dropBlanks s = b :: tail) (hlist : b ≠ '['.toUInt8)
    (hobject : b ≠ '\x7b'.toUInt8) (hscalar : (skipScalar b).run tail = .ok ((), r)) :
    skipFrom .value frames s = skipFrom .done frames r := by
  rw [skipFrom]
  split
  next h' => cases h.symm.trans h'
  next h' =>
    cases h.symm.trans h'
    rw [if_neg hlist, if_neg hobject]
    split
    next hs => cases hscalar.symm.trans hs
    next hs =>
      cases hscalar.symm.trans hs
      rfl

/-! ## What is between brackets -/

/-- An item of a bracket is passed over, with what stands before its value. -/
structure Skipped (frame : Frame) (item : List UInt8) : Prop where
  begun : Begun item
  run : ∀ frames {ws rest}, Blanks ws → Delimited rest →
    ∃ r, frame.skipLabel.run (ws ++ (item ++ rest)) = .ok ((), r) ∧
      skipFrom .value (frame :: frames) r = skipFrom .done (frame :: frames) rest

theorem closing_brackets (frame : Frame) : Closing frame.brackets.closing := by
  cases frame
  · exact .inl rfl
  · exact .inr rfl

/-- The items after the first one are passed over, with the closing bracket. -/
theorem skipFrom_continued (hitems : ∀ item ∈ vs, Skipped frame item)
    (hc : Continued frame.brackets.closing vs tail) (rest : List UInt8) :
    skipFrom .done (frame :: frames) (tail ++ rest) = skipFrom .done frames rest := by
  have hclosing := closing_brackets frame
  induction hc with
  | ended hws =>
    refine skipFrom_closing ?_
    rw [List.append_assoc, dropBlanks_append hws, List.singleton_append,
      dropBlanks_cons (isBlank_closing hclosing)]
  | next hws hws' hc ih =>
    rw [List.forall_mem_cons] at hitems
    obtain ⟨r, hlabel, hvalue⟩ :=
      hitems.1.run frames hws' (delimited_of_continued hclosing hc rest)
    rw [skipFrom_comma ?_ hlabel, hvalue]
    · exact ih hitems.2
    · simp only [List.append_assoc, List.cons_append]
      rw [dropBlanks_append hws, dropBlanks_cons rfl]

/-- **What is between brackets is passed over**, with the closing bracket. -/
theorem skipFrom_listed (hitems : ∀ item ∈ vs, Skipped frame item)
    (hl : Listed frame.brackets.closing vs body) (rest : List UInt8) :
    skipFrom .opened (frame :: frames) (body ++ rest) = skipFrom .done frames rest := by
  have hclosing := closing_brackets frame
  cases hl with
  | none hws =>
    refine skipFrom_none ?_
    rw [List.append_assoc, dropBlanks_append hws, List.singleton_append,
      dropBlanks_cons (isBlank_closing hclosing)]
  | @some _ item tail _ hws hc =>
    rw [List.forall_mem_cons] at hitems
    obtain ⟨hfirst, hlater⟩ := hitems
    obtain ⟨r, hlabel, hvalue⟩ :=
      hfirst.run frames blanks_nil (delimited_of_continued hclosing hc rest)
    have hdrop := dropBlanks_begun hws hfirst.begun (tail ++ rest)
    obtain ⟨b, _, rfl, hb⟩ := hfirst.begun
    simp only [List.append_assoc, List.cons_append, List.nil_append] at hdrop hlabel ⊢
    rw [skipFrom_first hdrop (ne_closing_of_not_isSeparator hclosing hb) hlabel, hvalue]
    exact skipFrom_continued hlater hc rest

/-! ## Values -/

/-- A value is passed over wherever it stands. -/
def SkippedValue (v : List UInt8) : Prop :=
  ∀ frames ws rest, Blanks ws → Delimited rest →
    skipFrom .value frames (ws ++ (v ++ rest)) = skipFrom .done frames rest

theorem skipped_of_value (hv : Begun v) (h : SkippedValue v) : Skipped .list v :=
  ⟨hv, fun _ _ _ hws hrest => ⟨_, rfl, h _ _ _ hws hrest⟩⟩

theorem skipKey_run {m : Member} (hkey : RawText m.key) (hbefore : Blanks m.before)
    (hws : Blanks ws) (rest : List UInt8) :
    skipKey.run (ws ++ (m.bytes ++ rest)) = .ok ((), m.after ++ (m.value ++ rest)) := by
  obtain ⟨pieces, hpieces, hkey⟩ := hkey
  have htext := skipText_run hpieces (m.before ++ ':'.toUInt8 :: (m.after ++ (m.value ++ rest)))
  have hcolon := Reader.run_peek_cons hbefore (b := ':'.toUInt8) rfl (m.after ++ (m.value ++ rest))
  rw [Member.bytes, hkey]
  simp only [List.append_assoc, List.cons_append, List.nil_append]
  rw [skipKey, Reader.run_bind_of_ok (Reader.run_peek_cons hws rfl _)]
  simp only [ne_eq, not_true_eq_false, if_false, Reader.run_bind, Reader.run_skip, htext, hcolon,
    if_true]

theorem skipped_of_member {m : Member} (hkey : RawText m.key) (hbefore : Blanks m.before)
    (hafter : Blanks m.after) (h : SkippedValue m.value) : Skipped .object m.bytes := by
  refine ⟨?_, fun _ _ _ hws hrest => ⟨_, skipKey_run hkey hbefore hws _, h _ _ _ hafter hrest⟩⟩
  obtain ⟨b, tail, hkey, hb⟩ := begun_of_rawText hkey
  exact ⟨b, _, by rw [Member.bytes, hkey]; rfl, hb⟩

theorem skippedValue_of_scalar (hb : isSeparator b = false) (hlist : b ≠ '['.toUInt8)
    (hobject : b ≠ '\x7b'.toUInt8)
    (h : ∀ rest, Delimited rest → (skipScalar b).run (tail ++ rest) = .ok ((), rest)) :
    SkippedValue (b :: tail) := by
  intro frames ws rest hws hrest
  refine skipFrom_scalar ?_ hlist hobject (h rest hrest)
  rw [dropBlanks_append hws, List.cons_append, dropBlanks_cons (isBlank_of_not_isSeparator hb)]

theorem skippedValue_of_word {w : String} (hw : w ∈ ["null", "true", "false"]) :
    SkippedValue (Text.bytes w) := by
  simp only [List.mem_cons, List.not_mem_nil, or_false] at hw
  rcases hw with rfl | rfl | rfl
  · change SkippedValue ('n'.toUInt8 :: Text.bytes "ull")
    exact skippedValue_of_scalar rfl (by decide) (by decide) fun rest _ => Reader.run_word _ rest
  · change SkippedValue ('t'.toUInt8 :: Text.bytes "rue")
    exact skippedValue_of_scalar rfl (by decide) (by decide) fun rest _ => Reader.run_word _ rest
  · change SkippedValue ('f'.toUInt8 :: Text.bytes "alse")
    exact skippedValue_of_scalar rfl (by decide) (by decide) fun rest _ => Reader.run_word _ rest

theorem skippedValue_of_literal {l : Literal} (h : l.Writes v) : SkippedValue v := by
  obtain ⟨first, tail, hlt, rfl, hrun⟩ := skipNumber_run h
  have hdigit : ∀ d < 10, isSeparator (Nat.digitChar d).toUInt8 = false ∧
      (Nat.digitChar d).toUInt8 ∉ ['['.toUInt8, '\x7b'.toUInt8, 'n'.toUInt8, 't'.toUInt8,
        'f'.toUInt8, '"'.toUInt8, '-'.toUInt8] := by decide
  cases l.negative with
  | true =>
    change SkippedValue ('-'.toUInt8 :: (Nat.digitChar first).toUInt8 :: tail)
    refine skippedValue_of_scalar rfl (by decide) (by decide) fun rest hrest => ?_
    exact (Reader.run_bind_of_ok (oneDigit_run hlt _)).trans (hrun rest hrest)
  | false =>
    obtain ⟨hseparator, hsign⟩ := hdigit first hlt
    simp only [List.mem_cons, List.not_mem_nil, or_false, not_or] at hsign
    obtain ⟨hlist, hobject, hnull, htrue, hfalse, hquote, hminus⟩ := hsign
    change SkippedValue ((Nat.digitChar first).toUInt8 :: tail)
    refine skippedValue_of_scalar hseparator hlist hobject fun rest hrest => ?_
    rw [skipScalar, if_neg hnull, if_neg htrue, if_neg hfalse, if_neg hquote, if_neg hminus,
      digit?_digitChar hlt]
    exact hrun rest hrest

theorem skippedValue_of_rawText (h : RawText v) : SkippedValue v := by
  obtain ⟨pieces, hpieces, rfl⟩ := h
  refine skippedValue_of_scalar rfl (by decide) (by decide) fun rest _ => ?_
  rw [List.append_assoc]
  exact skipText_run hpieces rest

/-- **Every well-formed value is passed over.** -/
theorem skipFrom_value (h : Value v) : SkippedValue v := by
  induction h with
  | word hw => exact skippedValue_of_word hw
  | number hl => exact skippedValue_of_literal hl
  | text ht => exact skippedValue_of_rawText ht
  | list hvs hbody ih =>
    intro frames ws rest hws hrest
    have hitems : ∀ v ∈ _, Skipped .list v :=
      fun v hv => skipped_of_value (begun_of_value (hvs v hv)) (ih v hv)
    rw [skipFrom_opening ?_ (.inl ⟨rfl, rfl⟩)]
    · exact skipFrom_listed hitems hbody rest
    · rw [dropBlanks_append hws, List.cons_append, dropBlanks_cons rfl]
  | @object members _ hkeys hvalues hbody ih =>
    intro frames ws rest hws hrest
    have hitems : ∀ item ∈ members.map Member.bytes, Skipped .object item := by
      rintro _ hitem
      obtain ⟨m, hm, rfl⟩ := List.mem_map.mp hitem
      obtain ⟨hkey, hbefore, hafter⟩ := hkeys m hm
      exact skipped_of_member hkey hbefore hafter (ih m hm)
    rw [skipFrom_opening ?_ (.inr ⟨rfl, rfl⟩)]
    · exact skipFrom_listed hitems hbody rest
    · rw [dropBlanks_append hws, List.cons_append, dropBlanks_cons rfl]

theorem skipValue_run (h : Value v) (hws : Blanks ws) (hrest : Delimited rest) :
    skipValue.run (ws ++ (v ++ rest)) = .ok ((), rest) := by
  have hskip := skipFrom_value h [] ws rest hws hrest
  rw [skipFrom] at hskip
  exact hskip

end SessionReplay.Json
