import SessionReplay.Unicode.Normal

/-!
# Signs that split a normal form

A basic character that is neither a letter nor a sign of comparison, such as the full stop or the
space, neither joins the characters after it nor those before it.

* `decompose_append_cons`, `compose_append_cons`: decomposition and composition split at it;
* `Composing.step_behind`, `finish_foldl_base`: what stands before it has no say in what follows;
* **`normalize_append_cons`**: so does the normal form.
-/

namespace SessionReplay.Unicode

variable {c d : Char} {cs ds xs ys : List Char}

/-! ## Signs on their own -/

theorem combiningClass_of_low (h : c.toNat < 0x300) : combiningClass c = 0 := if_pos h

theorem decomposeChar_of_low (h : c.toNat < 0xC0) : decomposeChar c = [c] := by
  have hletters : syllableLetters? c = none := if_neg (by omega)
  rw [decomposeChar, hletters, decomposition?, if_pos h]
  rfl

/-- The composite of two characters, a syllable or another one. -/
def joined? (first second : Char) : Option Char :=
  (syllable? first second).or (composite? first second)

theorem toNat_of_isLone (h : isLone c = true) : c.toNat < 0x80 := by
  rw [isLone, Bool.and_eq_true, Bool.and_eq_true, decide_eq_true_eq] at h
  exact h.1.1

theorem joined?_of_low (h : isLone c = true ∨ d.toNat < 0x300) : joined? c d = none := by
  have hlow : c.toNat < 0x80 ∨ d.toNat < 0x300 := h.imp_left toNat_of_isLone
  have hletters : ¬(0x1100 ≤ c.toNat ∧ c.toNat < 0x1100 + 19 ∧ 0x1161 ≤ d.toNat ∧
      d.toNat < 0x1161 + 21) := by omega
  have hsyllable : ¬(0xAC00 ≤ c.toNat ∧ c.toNat < 0xAC00 + 11172 ∧ (c.toNat - 0xAC00) % 28 = 0 ∧
      0x11A7 < d.toNat ∧ d.toNat < 0x11A7 + 28) := by omega
  have hnone : syllable? c d = none := (if_neg hletters).trans (if_neg hsyllable)
  rw [joined?, hnone, composite?, if_pos (by simpa using h)]
  rfl

/-! ## Decomposition -/

theorem insertMark_append_cons (hc : combiningClass c = 0) (d : Char) (xs ys : List Char) :
    insertMark d (xs ++ c :: ys) = insertMark d xs ++ c :: ys := by
  induction xs with
  | nil => exact if_neg fun h => h.1 hc
  | cons x xs ih =>
    rw [List.cons_append, insertMark, insertMark, ih]
    split <;> rfl

theorem orderMarks_append_cons (hc : combiningClass c = 0) (xs ys : List Char) :
    orderMarks (xs ++ c :: ys) = orderMarks xs ++ c :: orderMarks ys := by
  induction xs with
  | nil => exact if_pos hc
  | cons x xs ih =>
    rw [List.cons_append, orderMarks, orderMarks, ih]
    split
    · rfl
    · exact insertMark_append_cons hc x _ _

theorem decompose_append_cons (hc : c.toNat < 0xC0) (xs ys : List Char) :
    decompose (xs ++ c :: ys) = decompose xs ++ c :: decompose ys := by
  rw [decompose, List.flatMap_append, List.flatMap_cons, decomposeChar_of_low hc,
    List.singleton_append, orderMarks_append_cons (combiningClass_of_low (by omega))]
  rfl

theorem decompose_of_low (h : ∀ c ∈ cs, c.toNat < 0xC0) : decompose cs = cs := by
  induction cs with
  | nil => rfl
  | cons c cs ih =>
    rw [List.forall_mem_cons] at h
    have hsplit : decompose ([] ++ c :: cs) = [] ++ c :: decompose cs :=
      decompose_append_cons h.1 [] cs
    rw [ih h.2] at hsplit
    exact hsplit

/-! ## Composition -/

theorem Composing.step_of_not_joined {s : Composing}
    (h : ∀ base ∈ s.base, joined? base c = none) : s.step c = s.keep c := by
  unfold Composing.step
  split
  · rfl
  · next base hbase =>
    have hnone : (syllable? base c).or (composite? base c) = none := h base hbase
    rw [hnone]
    split <;> rfl

/-- A character before the combining marks ends what is composed so far. -/
theorem Composing.step_of_low (s : Composing) (hc : c.toNat < 0x300) :
    s.step c = ⟨s.finish, some c, [], 0⟩ := by
  rw [step_of_not_joined fun base _ => joined?_of_low (.inr hc), Composing.keep,
    if_pos (combiningClass_of_low hc)]

theorem finish_foldl_of_low (h : ∀ c ∈ cs, c.toNat < 0x300) (s : Composing) :
    (cs.foldl Composing.step s).finish = s.finish ++ cs := by
  induction cs generalizing s with
  | nil => rw [List.foldl_nil, List.append_nil]
  | cons c cs ih =>
    rw [List.forall_mem_cons] at h
    rw [List.foldl_cons, s.step_of_low h.1, ih h.2]
    simp [Composing.finish]

/-- More characters that are composed already. -/
def Composing.behind (done : List Char) (s : Composing) : Composing :=
  { s with done := done ++ s.done }

theorem Composing.finish_behind (done : List Char) (s : Composing) :
    (s.behind done).finish = done ++ s.finish := by
  simp [Composing.finish, Composing.behind]

theorem Composing.keep_behind (done : List Char) (s : Composing) (c : Char) :
    (s.behind done).keep c = (s.keep c).behind done := by
  unfold Composing.keep
  split
  · rw [finish_behind]
    rfl
  · rfl

/-- What is composed already does not matter for what follows. -/
theorem Composing.step_behind (done : List Char) (s : Composing) (c : Char) :
    (s.behind done).step c = (s.step c).behind done := by
  obtain ⟨front, base, marks, blocking⟩ := s
  cases base with
  | none => exact keep_behind done _ c
  | some base =>
    unfold Composing.step Composing.behind
    dsimp only
    by_cases hblocked : marks ≠ [] ∧ combiningClass c ≤ blocking
    · rw [if_pos hblocked, if_pos hblocked]
      exact keep_behind done ⟨front, some base, marks, blocking⟩ c
    · rw [if_neg hblocked, if_neg hblocked]
      cases (syllable? base c).or (composite? base c) with
      | none => exact keep_behind done ⟨front, some base, marks, blocking⟩ c
      | some joined => rfl

theorem finish_foldl_behind (done : List Char) (s : Composing) (cs : List Char) :
    (cs.foldl Composing.step (s.behind done)).finish =
      done ++ (cs.foldl Composing.step s).finish := by
  induction cs generalizing s with
  | nil => exact s.finish_behind done
  | cons c cs ih => rw [List.foldl_cons, List.foldl_cons, Composing.step_behind, ih]

/-- A base that joins nothing is like no base. -/
theorem finish_foldl_base (hc : isLone c = true) (marks : List Char) (blocking : Nat) :
    (cs.foldl Composing.step ⟨[], some c, marks, blocking⟩).finish =
      c :: (cs.foldl Composing.step ⟨[], none, marks, blocking⟩).finish := by
  induction cs generalizing marks blocking with
  | nil => rfl
  | cons d cs ih =>
    have hbase : ∀ base ∈ some c, joined? base d = none := by
      intro base hbase
      obtain rfl := Option.some.inj hbase
      exact joined?_of_low (.inl hc)
    rw [List.foldl_cons, List.foldl_cons, Composing.step_of_not_joined hbase,
      Composing.step_of_not_joined (by simp)]
    unfold Composing.keep
    split
    · exact finish_foldl_behind [c] ⟨marks.reverse, some d, [], 0⟩ cs
    · exact ih (d :: marks) (combiningClass d)

theorem compose_append_cons (hc : isLone c = true) (xs ys : List Char) :
    compose (xs ++ c :: ys) = compose xs ++ c :: compose ys := by
  have hstep : ∀ s : Composing, s.step c = Composing.behind s.finish ⟨[], some c, [], 0⟩ := by
    intro s
    rw [s.step_of_low (Nat.lt_trans (toNat_of_isLone hc) (by decide)), Composing.behind,
      List.append_nil]
  rw [compose, List.foldl_append, List.foldl_cons, hstep, finish_foldl_behind,
    finish_foldl_base hc]
  rfl

/-! ## The normal form -/

theorem normalize_eq (cs : List Char) : normalize cs = compose (decompose cs) := by
  unfold normalize
  split
  · next h =>
    rw [List.all_eq_true] at h
    have hlow : ∀ c ∈ cs, c.toNat < 0x80 := fun c hc => of_decide_eq_true (h c hc)
    rw [decompose_of_low fun c hc => Nat.lt_trans (hlow c hc) (by decide), compose,
      finish_foldl_of_low fun c hc => Nat.lt_trans (hlow c hc) (by decide)]
    rfl
  · rfl

/-- **A normal form splits** at a basic character that begins no composite. -/
theorem normalize_append_cons (hc : isLone c = true) (xs ys : List Char) :
    normalize (xs ++ c :: ys) = normalize xs ++ c :: normalize ys := by
  rw [normalize_eq, normalize_eq, normalize_eq,
    decompose_append_cons (Nat.lt_trans (toNat_of_isLone hc) (by decide)),
    compose_append_cons hc]

theorem normalize_of_basic (h : ∀ c ∈ cs, c.toNat < 0x80) : normalize cs = cs :=
  if_pos (List.all_eq_true.mpr fun c hc => decide_eq_true (h c hc))

end SessionReplay.Unicode
