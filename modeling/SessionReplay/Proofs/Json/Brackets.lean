import SessionReplay.Json.Reader

/-!
# Items between brackets

How a list of items is written between brackets, and that it is read back from there.

* `Blanks`, `isSeparator` — white space, and the bytes that stand between values;
* `Begun`, `Delimited` — bytes that begin with a value, and bytes that may follow one;
* `Listed` — items with commas between them, up to a closing bracket;
* `Reader.Reads` — a reader takes a value off the bytes that write it, wherever these stand;
* **`Brackets.items_run`**: items are read one after the other.
-/

namespace SessionReplay.Json

/-! ## White space and separators -/

/-- White space. -/
def Blanks (ws : List UInt8) : Prop :=
  ∀ b ∈ ws, b = ' '.toUInt8 ∨ b = '\n'.toUInt8 ∨ b = '\t'.toUInt8 ∨ b = '\r'.toUInt8

/-- A byte that may follow a value: white space, a comma or a closing bracket. -/
def isSeparator (b : UInt8) : Bool :=
  Reader.isBlank b || b == ','.toUInt8 || b == ']'.toUInt8 || b == '\x7d'.toUInt8

/-- Some bytes begin with one that is no separator. -/
def Begun (v : List UInt8) : Prop :=
  ∃ b tail, v = b :: tail ∧ isSeparator b = false

/-- Nothing follows, or a separator does. -/
def Delimited (rest : List UInt8) : Prop :=
  ∀ b ∈ rest.head?, isSeparator b = true

/-- A closing bracket. -/
def Closing (c : UInt8) : Prop :=
  c = ']'.toUInt8 ∨ c = '\x7d'.toUInt8

variable {ws ws' v rest body tail : List UInt8} {vs : List (List UInt8)} {b c : UInt8}

theorem isBlank_iff : Reader.isBlank b = true ↔
    b = ' '.toUInt8 ∨ b = '\n'.toUInt8 ∨ b = '\t'.toUInt8 ∨ b = '\r'.toUInt8 := by
  simp only [Reader.isBlank, Bool.or_eq_true, beq_iff_eq, or_assoc]

theorem blanks_nil : Blanks [] := List.forall_mem_nil _

theorem isBlank_of_not_isSeparator (h : isSeparator b = false) : Reader.isBlank b = false := by
  simp only [isSeparator, Bool.or_eq_false_iff] at h
  exact h.1.1.1

theorem isSeparator_closing (h : Closing c) : isSeparator c = true := by
  rcases h with rfl | rfl <;> rfl

theorem isBlank_closing (h : Closing c) : Reader.isBlank c = false := by
  rcases h with rfl | rfl <;> rfl

theorem comma_ne_closing (h : Closing c) : ','.toUInt8 ≠ c := by
  rcases h with rfl | rfl <;> decide

theorem ne_closing_of_not_isSeparator (hc : Closing c) (h : isSeparator b = false) : b ≠ c := by
  rintro rfl
  rw [isSeparator_closing hc] at h
  cases h

theorem dropBlanks_append (h : Blanks ws) (s : List UInt8) :
    Reader.dropBlanks (ws ++ s) = Reader.dropBlanks s :=
  List.dropWhile_append_of_pos fun b hb => isBlank_iff.mpr (h b hb)

theorem dropBlanks_cons (h : Reader.isBlank b = false) (s : List UInt8) :
    Reader.dropBlanks (b :: s) = b :: s :=
  List.dropWhile_cons_of_neg (Bool.not_eq_true _ ▸ h)

theorem dropBlanks_begun (hws : Blanks ws) (hv : Begun v) (rest : List UInt8) :
    Reader.dropBlanks (ws ++ (v ++ rest)) = v ++ rest := by
  obtain ⟨b, tail, rfl, hb⟩ := hv
  rw [dropBlanks_append hws, List.cons_append, dropBlanks_cons (isBlank_of_not_isSeparator hb)]

theorem delimited_of_blanks (h : Blanks ws) (hrest : Delimited rest) : Delimited (ws ++ rest) := by
  cases ws with
  | nil => exact hrest
  | cons b ws =>
    rintro _ ⟨⟩
    rw [isSeparator, isBlank_iff.mpr (h b List.mem_cons_self)]
    rfl

theorem delimited_cons (h : isSeparator b = true) (rest : List UInt8) : Delimited (b :: rest) := by
  rintro _ ⟨⟩
  exact h

/-! ## Lists of items -/

/-- More items, each after a comma, up to a closing bracket. -/
inductive Continued (closing : UInt8) : List (List UInt8) → List UInt8 → Prop
  | ended {ws : List UInt8} : Blanks ws → Continued closing [] (ws ++ [closing])
  | next {ws ws' v tail : List UInt8} {vs : List (List UInt8)} :
    Blanks ws → Blanks ws' → Continued closing vs tail →
      Continued closing (v :: vs) (ws ++ ','.toUInt8 :: (ws' ++ (v ++ tail)))

/-- Items with commas between them, up to a closing bracket. -/
inductive Listed (closing : UInt8) : List (List UInt8) → List UInt8 → Prop
  | none {ws : List UInt8} : Blanks ws → Listed closing [] (ws ++ [closing])
  | some {ws v tail : List UInt8} {vs : List (List UInt8)} :
    Blanks ws → Continued closing vs tail → Listed closing (v :: vs) (ws ++ (v ++ tail))

theorem delimited_of_continued (hc : Closing c) (h : Continued c vs tail) (rest : List UInt8) :
    Delimited (tail ++ rest) := by
  cases h with
  | ended hws =>
    rw [List.append_assoc]
    exact delimited_of_blanks hws (delimited_cons (isSeparator_closing hc) _)
  | next hws =>
    rw [List.append_assoc]
    exact delimited_of_blanks hws (delimited_cons rfl _)

/-! ## Readers -/

namespace Reader

variable {α β σ : Type}

/-- **A reader takes a value off the bytes that write it**, wherever these stand. -/
structure Reads (p : Reader α) (v : List UInt8) (a : α) : Prop where
  begun : Begun v
  run : ∀ {ws rest}, Blanks ws → Delimited rest → p.run (ws ++ (v ++ rest)) = .ok (a, rest)

@[simp] theorem run_pure (a : α) (s : List UInt8) : (pure a : Reader α).run s = .ok (a, s) := rfl

theorem run_bind (p : Reader α) (f : α → Reader β) (s : List UInt8) :
    (p >>= f).run s = match p.run s with
      | .ok (a, r) => (f a).run r
      | .error fault => .error fault := rfl

theorem run_bind_of_ok {p : Reader α} {f : α → Reader β} {s r : List UInt8} {a : α}
    (h : p.run s = .ok (a, r)) : (p >>= f).run s = (f a).run r := by
  rw [run_bind, h]

@[simp] theorem run_skip (b : UInt8) (s : List UInt8) : skip.run (b :: s) = .ok ((), s) := rfl

theorem run_peek (s : List UInt8) : peek.run s = .ok ((dropBlanks s).head?, dropBlanks s) := rfl

theorem run_peek_cons (hws : Blanks ws) (hb : isBlank b = false) (s : List UInt8) :
    peek.run (ws ++ b :: s) = .ok (some b, b :: s) := by
  rw [run_peek, dropBlanks_append hws, dropBlanks_cons hb]
  rfl

theorem run_word (letters rest : List UInt8) :
    (word letters).run (letters ++ rest) = .ok ((), rest) := by
  induction letters with
  | nil => rfl
  | cons b letters ih =>
    have hletter : (letter b).run (b :: (letters ++ rest)) = .ok ((), letters ++ rest) := by
      simp only [letter, if_true]
    rw [word, List.cons_append, run_bind_of_ok hletter, ih]

theorem Reads.run_front {p : Reader α} {a : α} (h : p.Reads v a) (hrest : Delimited rest) :
    p.run (v ++ rest) = .ok (a, rest) :=
  h.run blanks_nil hrest

theorem Reads.bind_pure {p : Reader α} {f : α → Reader β} {a : α} {b : β} (h : p.Reads v a)
    (hf : f a = pure b) : (p >>= f).Reads v b :=
  ⟨h.begun, fun hws hrest => by rw [run_bind_of_ok (h.run hws hrest), hf, run_pure]⟩

/-- A whole document may have white space around it. -/
theorem readAll_of_reads {p : Reader α} {a : α} (h : p.Reads v a) (hws : Blanks ws)
    (hws' : Blanks ws') : p.readAll (ws ++ (v ++ ws')) = .ok a := by
  have hrest : Delimited ws' := by
    rw [← List.append_nil ws']
    exact delimited_of_blanks hws' nofun
  have hend : dropBlanks ws' = [] := by
    rw [← List.append_nil ws', dropBlanks_append hws']
    rfl
  rw [readAll, h.run hws hrest]
  exact if_pos hend

end Reader

namespace Brackets

variable {σ : Type} {k : Brackets} {item : σ → Reader σ} {state final : σ}

/-- Items are read one after the other, each with what is read so far. -/
inductive ReadsAll (item : σ → Reader σ) : σ → List (List UInt8) → σ → Prop
  | nil {state : σ} : ReadsAll item state [] state
  | cons {state next final : σ} {v : List UInt8} {vs : List (List UInt8)} :
    (item state).Reads v next → ReadsAll item next vs final → ReadsAll item state (v :: vs) final

theorem hasNext_closing (hk : Closing k.closing) (hws : Blanks ws) (rest : List UInt8) :
    k.hasNext.run (ws ++ k.closing :: rest) = .ok (false, k.closing :: rest) := by
  have hdrop : Reader.dropBlanks (ws ++ k.closing :: rest) = k.closing :: rest := by
    rw [dropBlanks_append hws, dropBlanks_cons (isBlank_closing hk)]
  simp only [hasNext, hdrop, if_true]

theorem hasNext_comma (hk : Closing k.closing) (hws : Blanks ws) (hws' : Blanks ws') (hv : Begun v)
    (rest : List UInt8) :
    k.hasNext.run (ws ++ ','.toUInt8 :: (ws' ++ (v ++ rest))) = .ok (true, v ++ rest) := by
  have hdrop : Reader.dropBlanks (ws ++ ','.toUInt8 :: (ws' ++ (v ++ rest))) =
      ','.toUInt8 :: (ws' ++ (v ++ rest)) := by
    rw [dropBlanks_append hws, dropBlanks_cons rfl]
  have hitem := dropBlanks_begun hws' hv rest
  obtain ⟨b, tail, rfl, hb⟩ := hv
  rw [List.cons_append] at hitem hdrop ⊢
  simp only [hasNext, hdrop, if_neg (comma_ne_closing hk), if_true, hitem,
    if_neg (ne_closing_of_not_isSeparator hk hb)]

theorem hasFirst_closing (hk : Closing k.closing) (hws : Blanks ws) (rest : List UInt8) :
    k.hasFirst.run (ws ++ k.closing :: rest) = .ok (false, k.closing :: rest) := by
  have hdrop : Reader.dropBlanks (ws ++ k.closing :: rest) = k.closing :: rest := by
    rw [dropBlanks_append hws, dropBlanks_cons (isBlank_closing hk)]
  simp only [hasFirst, hdrop, bne_self_eq_false]

theorem hasFirst_begun (hk : Closing k.closing) (hws : Blanks ws) (hv : Begun v)
    (rest : List UInt8) : k.hasFirst.run (ws ++ (v ++ rest)) = .ok (true, v ++ rest) := by
  have hitem := dropBlanks_begun hws hv rest
  obtain ⟨b, tail, rfl, hb⟩ := hv
  rw [List.cons_append] at hitem ⊢
  simp only [hasFirst, hitem, bne_iff_ne.mpr (ne_closing_of_not_isSeparator hk hb)]

theorem more_of_last {s r : List UInt8} (h : k.hasNext.run s = .ok (false, r)) :
    more k item state s = .ok (state, r) := by
  rw [more]
  split
  next h' => cases h.symm.trans h'
  next h' =>
    cases h.symm.trans h'
    rfl
  next h' => cases h.symm.trans h'

theorem more_of_next {next : σ} {s r r' : List UInt8} (h : k.hasNext.run s = .ok (true, r))
    (hitem : (item state).run r = .ok (next, r')) :
    more k item state s = more k item next r' := by
  rw [more]
  split
  next h' => cases h.symm.trans h'
  next h' => cases h.symm.trans h'
  next h' =>
    cases h.symm.trans h'
    split
    next hi => cases hitem.symm.trans hi
    next hi =>
      cases hitem.symm.trans hi
      rfl

/-- The items after the first one. -/
theorem more_run (hk : Closing k.closing) (h : ReadsAll item state vs final)
    (hc : Continued k.closing vs tail) (rest : List UInt8) :
    more k item state (tail ++ rest) = .ok (final, k.closing :: rest) := by
  induction hc generalizing state with
  | ended hws =>
    cases h
    rw [List.append_assoc]
    exact more_of_last (hasNext_closing hk hws rest)
  | next hws hws' hc ih =>
    cases h with
    | cons hitem hlater =>
      have hnext := hasNext_comma hk hws hws' hitem.begun
      have hread := hitem.run_front (delimited_of_continued hk hc rest)
      simp only [List.append_assoc, List.cons_append]
      rw [more_of_next (hnext _) hread]
      exact ih hlater

/-- **Items are read one after the other**, and the closing bracket is passed over. -/
theorem items_run (hk : Closing k.closing) (h : ReadsAll item state vs final)
    (hl : Listed k.closing vs body) (rest : List UInt8) :
    (k.items item state).run (body ++ rest) = .ok (final, rest) := by
  rw [items]
  cases hl with
  | none hws =>
    cases h
    rw [List.append_assoc, List.singleton_append,
      Reader.run_bind_of_ok (hasFirst_closing hk hws rest)]
    rfl
  | some hws hc =>
    cases h with
    | cons hitem hlater =>
      have hread := hitem.run_front (delimited_of_continued hk hc rest)
      simp only [List.append_assoc]
      rw [Reader.run_bind_of_ok (hasFirst_begun hk hws hitem.begun _), if_pos rfl,
        Reader.run_bind_of_ok hread]
      simp only [Reader.run_bind, more_run hk hlater hc rest, Reader.run_skip, Reader.run_pure]

end Brackets

end SessionReplay.Json
