import Mathlib.Data.List.Sort
import Mathlib.Tactic.Ring
import SessionReplay.Idna.Punycode

/-!
# Labels that are read are written the same

A label in Punycode without capitals has one written form only: what reading accepts is what writing
makes of the label that is read.

* `Reading.put`, `exists_number`: what stands in front of a reader is one written number, and the
  reader goes on where that number leads;
* `codes`, `codesFrom`: the characters that a writer writes, in increasing order;
* `resume` — a writer in the middle of a label;
* `Reading.Between`, `Reading.At`, `Writing.Matches` — a reader and a writer of one label at the same
  place;
* `exists_at_of_put`: where the reader puts a character, the writer writes the number that led there;
* **`resume_digits`**: a writer writes what a reader has left to read;
* **`encode_of_decode`**: reading is undone by writing;
* `forall_mem_encode`: the characters of a written form.
-/

namespace SessionReplay.Idna.Punycode

variable {basics code m n : Nat} {c : Char} {digits rest label xs ys : List Char}
  {r next last : Reading} {w : Writing}

/-! ## Numbers -/

theorem digit_of_digitValue? {value : Nat} (h : digitValue? c = some value)
    (hc : c.isUpper = false) : digit value = c ∧ value < 36 := by
  have hupper : ¬('A' ≤ c ∧ c ≤ 'Z') := by
    rintro ⟨hA, hZ⟩
    exact of_decide_eq_false hc ⟨hA, hZ⟩
  rw [digitValue?, if_neg hupper] at h
  split_ifs at h with hletter hdecimal
  · obtain rfl := Option.some.inj h
    have hfirst : 0x61 ≤ c.toNat := hletter.1
    have hlast : c.toNat ≤ 0x7A := hletter.2
    rw [digit, if_pos (by omega), Nat.add_sub_cancel' hfirst, Char.ofNat_toNat]
    exact ⟨rfl, by omega⟩
  · obtain rfl := Option.some.inj h
    have hfirst : 0x30 ≤ c.toNat := hdecimal.1
    have hlast : c.toNat ≤ 0x39 := hdecimal.2
    rw [digit, if_neg (by omega), Nat.add_sub_cancel' (by omega), Char.ofNat_toNat]
    exact ⟨rfl, by omega⟩

theorem toNat_of_character? (h : character? n = some c) : c.toNat = n := by
  rw [character?] at h
  split_ifs at h with hvalid
  obtain rfl := Option.some.inj h
  rw [Char.ofNat, dif_pos hvalid]
  rfl

/-- The reader after a number: the character that the number leads to is put into the label. -/
def Reading.put (r : Reading) (number : Nat) : Option Reading :=
  let count := r.chars.length + 1
  (character? (r.code + number / count)).map fun char =>
    { chars := r.chars.take (number % count) ++ char :: r.chars.drop (number % count)
      code := r.code + number / count
      place := number % count + 1
      number := number % count + 1
      weight := 1
      position := 36
      bias := adapt (number - r.place) count (r.place == 0) }

theorem step_of_last {value : Nat} (h : digitValue? c = some value)
    (hvalue : value < threshold r.bias r.position) :
    r.step c = r.put (r.number + value * r.weight) := by
  rw [Reading.step, h]
  simp only [Option.bind_eq_bind, Option.bind_some, if_pos hvalue, Reading.put]
  cases character? _ <;> rfl

theorem step_of_more {value : Nat} (h : digitValue? c = some value)
    (hvalue : ¬value < threshold r.bias r.position) :
    r.step c = some { r with
      number := r.number + value * r.weight
      weight := r.weight * (36 - threshold r.bias r.position)
      position := r.position + 36 } := by
  rw [Reading.step, h]
  simp only [Option.bind_eq_bind, Option.bind_some, if_neg hvalue]

theorem writeNumber_of_lt {bias position : Nat} (h : n < threshold bias position) :
    writeNumber bias position n = [digit n] := by
  rw [writeNumber]
  exact if_pos h

theorem writeNumber_ne_nil (bias position n : Nat) : writeNumber bias position n ≠ [] := by
  rw [writeNumber]
  split <;> exact List.cons_ne_nil _ _

/-- A digit that does not end a number stands before the rest of the number. -/
theorem writeNumber_of_more {bias position value : Nat} (hvalue : ¬value < threshold bias position)
    (hdigit : value < 36) (n : Nat) :
    writeNumber bias position (value + (36 - threshold bias position) * n) =
      digit value :: writeNumber bias (position + 36) n := by
  have hle := threshold_le bias position
  have hless : ¬value + (36 - threshold bias position) * n < threshold bias position := by omega
  have hrest : value + (36 - threshold bias position) * n - threshold bias position =
      value - threshold bias position + (36 - threshold bias position) * n := by omega
  have hmod : (value - threshold bias position) % (36 - threshold bias position) =
      value - threshold bias position := Nat.mod_eq_of_lt (by omega)
  have hdiv : (value - threshold bias position) / (36 - threshold bias position) = 0 :=
    Nat.div_eq_of_lt (by omega)
  rw [writeNumber, if_neg hless, hrest, Nat.add_mul_mod_self_left, hmod,
    Nat.add_mul_div_left _ _ (by omega), hdiv, Nat.zero_add, Nat.add_sub_cancel' (by omega)]

/-- **A reader reads a written number**: the digits in front are those of one number, and the reader
goes on behind them. -/
theorem exists_number (hread : digits.foldlM Reading.step r = some last)
    (hlast : last.position = 36) (hposition : 36 ≤ r.position)
    (hbegun : digits ≠ [] ∨ 36 < r.position) (hsmall : ∀ c ∈ digits, c.isUpper = false) :
    ∃ n rest next, digits = writeNumber r.bias r.position n ++ rest ∧
      r.put (r.number + n * r.weight) = some next ∧ rest.foldlM Reading.step next = some last := by
  induction digits generalizing r with
  | nil =>
    obtain rfl := Option.some.inj hread
    have hbeyond := hbegun.resolve_left (by simp)
    omega
  | cons c digits ih =>
    rw [List.foldlM_cons, Option.bind_eq_bind, Option.bind_eq_some_iff] at hread
    obtain ⟨next, hstep, hread⟩ := hread
    rw [List.forall_mem_cons] at hsmall
    cases hvalue : digitValue? c with
    | none =>
      rw [Reading.step, hvalue] at hstep
      cases hstep
    | some value =>
      obtain ⟨hdigit, hlt⟩ := digit_of_digitValue? hvalue hsmall.1
      by_cases hend : value < threshold r.bias r.position
      · rw [step_of_last hvalue hend] at hstep
        refine ⟨value, digits, next, ?_, hstep, hread⟩
        rw [writeNumber_of_lt hend, hdigit, List.singleton_append]
      · rw [step_of_more hvalue hend] at hstep
        obtain rfl := Option.some.inj hstep
        obtain ⟨n, rest, after, hdigits, hput, hrest⟩ :=
          ih hread (Nat.le_add_left 36 r.position) (.inr (Nat.lt_add_of_pos_left (by omega)))
            hsmall.2
        refine ⟨value + (36 - threshold r.bias r.position) * n, rest, after, ?_, ?_, hrest⟩
        · rw [writeNumber_of_more hend hlt, hdigit, List.cons_append]
          exact congrArg (c :: ·) hdigits
        · have hnumber : r.number + (value + (36 - threshold r.bias r.position) * n) * r.weight =
              r.number + value * r.weight + n * (r.weight * (36 - threshold r.bias r.position)) := by
            ring
          rw [hnumber]
          exact hput

/-! ## Characters in increasing order -/

theorem pairwise_eraseDups : ∀ {ns : List Nat}, ns.Pairwise (· ≤ ·) → ns.eraseDups.Pairwise (· < ·)
  | [], _ => List.Pairwise.nil
  | n :: ns, h => by
    rw [List.pairwise_cons] at h
    rw [List.eraseDups_cons, List.pairwise_cons]
    refine ⟨fun m hm => ?_, pairwise_eraseDups (h.2.filter _)⟩
    rw [List.mem_eraseDups, List.mem_filter, Bool.not_eq_true', beq_eq_false_iff_ne] at hm
    exact Nat.lt_of_le_of_ne (h.1 m hm.1) hm.2.symm
termination_by ns => ns.length
decreasing_by exact Nat.lt_succ_of_le (List.length_filter_le _ _)

/-- The characters of a label that are written as numbers, in increasing order. -/
def codes (label : List Char) : List Nat :=
  ((label.filter (!isBasic ·)).map Char.toNat).mergeSort.eraseDups

/-- Those from one character on. -/
def codesFrom (label : List Char) (code : Nat) : List Nat :=
  (codes label).filter (code ≤ ·)

theorem pairwise_codesFrom (label : List Char) (code : Nat) :
    (codesFrom label code).Pairwise (· < ·) :=
  (pairwise_eraseDups (List.pairwise_mergeSort' (· ≤ ·) _)).filter _

theorem mem_codes : n ∈ codes label ↔ 0x80 ≤ n ∧ ∃ c ∈ label, c.toNat = n := by
  rw [codes, List.mem_eraseDups, List.mem_mergeSort, List.mem_map, ← exists_and_left]
  refine exists_congr fun c => ?_
  rw [List.mem_filter, isBasic, Bool.not_eq_true', decide_eq_false_iff_not]
  constructor
  · rintro ⟨⟨hc, hbasic⟩, rfl⟩
    exact ⟨Nat.not_lt.mp hbasic, hc, rfl⟩
  · rintro ⟨hbasic, hc, rfl⟩
    exact ⟨⟨hc, Nat.not_lt.mpr hbasic⟩, rfl⟩

theorem mem_codesFrom (hcode : 0x80 ≤ code) :
    n ∈ codesFrom label code ↔ code ≤ n ∧ ∃ c ∈ label, c.toNat = n := by
  rw [codesFrom, List.mem_filter, decide_eq_true_iff, mem_codes, and_comm]
  exact and_congr_right fun hle => and_iff_right (Nat.le_trans hcode hle)

theorem codesFrom_of_mem (hcode : 0x80 ≤ c.toNat) (hc : c ∈ label) :
    codesFrom label c.toNat = c.toNat :: codesFrom label (c.toNat + 1) := by
  apply (pairwise_codesFrom _ _).eq_of_mem_iff
  · rw [List.pairwise_cons]
    refine ⟨fun n hn => ?_, pairwise_codesFrom _ _⟩
    rw [mem_codesFrom (by omega)] at hn
    exact hn.1
  · intro n
    rw [mem_codesFrom hcode, List.mem_cons, mem_codesFrom (by omega)]
    constructor
    · rintro ⟨hle, hn⟩
      rcases Nat.eq_or_lt_of_le hle with heq | hlt
      · exact .inl heq.symm
      · exact .inr ⟨hlt, hn⟩
    · rintro (rfl | ⟨hlt, hn⟩)
      · exact ⟨Nat.le_refl _, c, hc, rfl⟩
      · exact ⟨Nat.le_of_lt hlt, hn⟩

theorem codesFrom_skip (hcode : 0x80 ≤ code) (hle : code ≤ n)
    (hnone : ∀ c ∈ label, code ≤ c.toNat → n ≤ c.toNat) :
    codesFrom label code = codesFrom label n := by
  apply (pairwise_codesFrom _ _).eq_of_mem_iff (pairwise_codesFrom _ _)
  intro m
  rw [mem_codesFrom hcode, mem_codesFrom (Nat.le_trans hcode hle)]
  constructor
  · rintro ⟨hm, c, hc, rfl⟩
    exact ⟨hnone c hc hm, c, hc, rfl⟩
  · rintro ⟨hm, hc⟩
    exact ⟨Nat.le_trans hle hm, hc⟩

/-! ## A writer in the middle of a label -/

/-- A writer that has `behind` left to pass at the character `code`. -/
def resume (label : List Char) (basics code : Nat) (behind : List Char) (w : Writing) : Writing :=
  let w := behind.foldl (Writing.pass basics code) w
  writeCodes label basics (codesFrom label (code + 1)) (code + 1) { w with delta := w.delta + 1 }

theorem foldl_pass (h : ∀ x ∈ xs, x.toNat ≠ code) (w : Writing) :
    xs.foldl (Writing.pass basics code) w =
      { w with delta := w.delta + (xs.filter (·.toNat < code)).length } := by
  induction xs generalizing w with
  | nil => rfl
  | cons x xs ih =>
    rw [List.forall_mem_cons] at h
    rw [List.foldl_cons, ih h.2, Writing.pass]
    by_cases hx : x.toNat < code
    · rw [if_pos hx, List.filter_cons, if_pos (decide_eq_true hx), List.length_cons,
        Nat.add_right_comm, Nat.add_assoc]
    · rw [if_neg hx, if_neg h.1, List.filter_cons, if_neg (by simpa using hx)]

/-- Larger characters are passed over. -/
theorem resume_append_of_lt (h : ∀ x ∈ xs, code < x.toNat) (ys : List Char) (w : Writing) :
    resume label basics code (xs ++ ys) w = resume label basics code ys w := by
  have hnone : xs.filter (·.toNat < code) = [] := by
    rw [List.filter_eq_nil_iff]
    intro x hx
    have hlt := h x hx
    simp only [decide_eq_true_eq]
    omega
  rw [resume, List.foldl_append, foldl_pass fun x hx => (h x hx).ne', hnone]
  rfl

/-- A writer after one more number. -/
def Writing.put (basics n : Nat) (w : Writing) : Writing where
  digits := w.digits ++ writeNumber w.bias 36 n
  delta := 0
  bias := adapt n (w.count + 1) (w.count == basics)
  count := w.count + 1

/-- At the next occurrence of the character, the number of the places passed over is written. -/
theorem resume_append_cons (h : ∀ x ∈ xs, x.toNat ≠ c.toNat) (ys : List Char) (w : Writing) :
    resume label basics c.toNat (xs ++ c :: ys) w =
      resume label basics c.toNat ys
        (w.put basics (w.delta + (xs.filter (·.toNat < c.toNat)).length)) := by
  rw [resume, List.foldl_append, foldl_pass h, List.foldl_cons, Writing.pass,
    if_neg (Nat.lt_irrefl _), if_pos rfl]
  rfl

/-- A writer that waits for the next character waits for any character before it. -/
theorem writeCodes_codesFrom (hcode : 0x80 ≤ code) (hle : code ≤ c.toNat) (hc : c ∈ label)
    (hnone : ∀ x ∈ label, code ≤ x.toNat → c.toNat ≤ x.toNat) (w : Writing) :
    writeCodes label basics (codesFrom label code) code w =
      resume label basics c.toNat label
        { w with delta := w.delta + (c.toNat - code) * (w.count + 1) } := by
  rw [codesFrom_skip hcode hle hnone, codesFrom_of_mem (Nat.le_trans hcode hle) hc, writeCodes]
  rfl

/-! ## Reader and writer side by side -/

/-- A reader between two numbers, after `basics` basic characters. -/
structure Reading.Between (basics : Nat) (r : Reading) : Prop where
  number : r.number = r.place
  weight : r.weight = 1
  position : r.position = 36
  place_le : r.place ≤ r.chars.length
  first_iff : r.place = 0 ↔ r.chars.length = basics
  basics_le : basics ≤ r.chars.length
  code_ge : 0x80 ≤ r.code
  le_code : ∀ c ∈ r.chars, c.toNat ≤ r.code
  lt_code : ∀ c ∈ r.chars.drop r.place, c.toNat < r.code

/-- The place of a reader in the label that it reads: `front` holds what it has read before its
place and larger characters, `behind` what it has read behind its place and characters to come. -/
structure Reading.At (r : Reading) (label front behind : List Char) : Prop where
  split : label = front ++ behind
  front : front.filter (·.toNat ≤ r.code) = r.chars.take r.place
  behind : behind.filter (·.toNat < r.code) = r.chars.drop r.place

/-- A writer that has written what a reader has read. -/
structure Writing.Matches (w : Writing) (r : Reading) : Prop where
  delta : w.delta = 0
  bias : w.bias = r.bias
  count : w.count = r.chars.length

theorem put_eq_some (h : r.put (r.place + n) = some next) :
    ∃ c place more, c.toNat = r.code + more ∧ place ≤ r.chars.length ∧
      r.place + n = more * (r.chars.length + 1) + place ∧
      next = {
        chars := r.chars.take place ++ c :: r.chars.drop place
        code := c.toNat
        place := place + 1
        number := place + 1
        weight := 1
        position := 36
        bias := adapt n (r.chars.length + 1) (r.place == 0) } := by
  rw [Reading.put, Option.map_eq_some_iff] at h
  obtain ⟨c, hc, rfl⟩ := h
  have hcode := toNat_of_character? hc
  refine ⟨c, _, _, hcode, Nat.lt_succ_iff.mp (Nat.mod_lt _ (Nat.succ_pos _)),
    (Nat.div_add_mod' _ _).symm, ?_⟩
  rw [hcode, Nat.add_sub_cancel_left]

theorem take_put {place : Nat} (h : place ≤ xs.length) (c : Char) :
    (xs.take place ++ c :: xs.drop place).take (place + 1) = xs.take place ++ [c] := by
  rw [List.take_append, List.length_take, Nat.min_eq_left h, Nat.add_sub_cancel_left,
    List.take_of_length_le (by simp)]
  rfl

theorem drop_put {place : Nat} (h : place ≤ xs.length) (c : Char) :
    (xs.take place ++ c :: xs.drop place).drop (place + 1) = xs.drop place := by
  rw [List.drop_append, List.length_take, Nat.min_eq_left h, Nat.add_sub_cancel_left,
    List.drop_eq_nil_of_le (by simp)]
  rfl

theorem exists_append_cons_of_filter {p : Char → Bool} (h : xs.filter p = ys ++ [c]) :
    ∃ front behind, xs = front ++ c :: behind ∧ front.filter p = ys ∧
      ∀ x ∈ behind, p x = false := by
  obtain ⟨before, after, rfl, hbefore, hafter⟩ := List.filter_eq_append_iff.mp h
  obtain ⟨skipped, behind, rfl, hskipped, -, hbehind⟩ := List.filter_eq_cons_iff.mp hafter
  refine ⟨before ++ skipped, behind, by rw [List.append_assoc], ?_, ?_⟩
  · rw [List.filter_append, hbefore, List.filter_eq_nil_iff.mpr hskipped, List.append_nil]
  · simpa using List.filter_eq_nil_iff.mp hbehind

theorem Reading.Between.put (hr : r.Between basics) (h : r.put (r.place + n) = some next) :
    next.Between basics := by
  obtain ⟨c, place, more, hcode, hplace, hn, rfl⟩ := put_eq_some h
  have hbasics := hr.basics_le
  have hlength : (r.chars.take place ++ c :: r.chars.drop place).length = r.chars.length + 1 := by
    simp only [List.length_append, List.length_cons, List.length_take, List.length_drop]
    omega
  constructor <;> dsimp only
  · rw [hlength]
    omega
  · rw [hlength]
    omega
  · omega
  · exact hcode ▸ Nat.le_trans hr.code_ge (Nat.le_add_right _ _)
  · intro x hx
    rw [hcode]
    rw [List.mem_append, List.mem_cons] at hx
    rcases hx with hx | rfl | hx
    · exact Nat.le_trans (hr.le_code x (List.mem_of_mem_take hx)) (Nat.le_add_right _ _)
    · exact Nat.le_of_eq hcode
    · exact Nat.le_trans (hr.le_code x (List.mem_of_mem_drop hx)) (Nat.le_add_right _ _)
  · intro x hx
    rw [drop_put hplace] at hx
    rw [hcode]
    rcases Nat.eq_zero_or_pos more with rfl | hmore
    · exact hr.lt_code x (List.drop_subset_drop_left r.chars (by omega) hx)
    · have hle := hr.le_code x (List.mem_of_mem_drop hx)
      omega

theorem filter_le_eq_filter_lt (h : ∀ x ∈ xs, x.toNat ≠ code) :
    xs.filter (·.toNat ≤ code) = xs.filter (·.toNat < code) := by
  refine List.filter_congr fun x hx => decide_eq_decide.mpr ?_
  have hne := h x hx
  omega

/-- Characters that are all smaller do not contain `code`. -/
theorem ne_code_of_filter (h : xs.filter (·.toNat ≤ code) = ys)
    (hlt : ∀ y ∈ ys, y.toNat < code) : ∀ x ∈ xs, x.toNat ≠ code := by
  rintro x hx rfl
  have hmem : x ∈ xs.filter (·.toNat ≤ x.toNat) := List.mem_filter.mpr ⟨hx, by simp⟩
  exact absurd (hlt x (h ▸ hmem)) (Nat.lt_irrefl _)

theorem Writing.Matches.put (hw : w.Matches r) (hr : r.Between basics)
    (h : r.put (r.place + n) = some next) : (w.put basics n).Matches next := by
  obtain ⟨c, place, more, -, hplace, -, rfl⟩ := put_eq_some h
  refine ⟨rfl, ?_, ?_⟩
  · have hfirst : (w.count == basics) = (r.place == 0) := by
      rw [Bool.eq_iff_iff, beq_iff_eq, beq_iff_eq, hw.count, hr.first_iff]
    rw [Writing.put, hfirst, hw.count]
  · rw [Writing.put, hw.count]
    simp only [List.length_append, List.length_cons, List.length_take, List.length_drop]
    omega

/-- The number before a character like the one before it counts the places between them. -/
theorem exists_at_of_same (hr : r.Between basics) (hc : c.toNat = r.code)
    (hplace : r.place + n ≤ r.chars.length)
    (hxs : xs.filter (·.toNat ≤ c.toNat) = r.chars.take (r.place + n))
    (hys : ys.filter (·.toNat < c.toNat) = r.chars.drop (r.place + n)) :
    ∃ front behind, r.At (xs ++ c :: ys) front behind ∧ ∀ w : Writing, w.Matches r →
      resume label basics r.code behind w = resume label basics c.toNat ys (w.put basics n) := by
  rw [List.take_add] at hxs
  obtain ⟨front, passed, rfl, hfront, hpassed⟩ := List.filter_eq_append_iff.mp hxs
  have hne : ∀ x ∈ passed, x.toNat ≠ c.toNat := by
    refine ne_code_of_filter hpassed fun y hy => ?_
    rw [hc]
    exact hr.lt_code y (List.mem_of_mem_take hy)
  rw [filter_le_eq_filter_lt hne] at hpassed
  refine ⟨front, passed ++ c :: ys, ⟨by rw [List.append_assoc], hc ▸ hfront, ?_⟩, fun w hw => ?_⟩
  · rw [← hc, List.filter_append, hpassed, List.filter_cons, if_neg (by simp), hys, ← List.drop_drop,
      List.take_append_drop]
  · have hlength : w.delta + (passed.filter (·.toNat < c.toNat)).length = n := by
      rw [hw.delta, hpassed, List.length_take, List.length_drop]
      omega
    rw [← hc, resume_append_cons hne, hlength]

/-- The number before a larger character counts the places left, the whole label for each character
between them, and the places before it. -/
theorem exists_at_of_larger {more place : Nat} (hr : r.Between basics) (hmore : 0 < more)
    (hc : c.toNat = r.code + more) (hplace : place ≤ r.chars.length)
    (hn : r.place + n = more * (r.chars.length + 1) + place)
    (hxs : xs.filter (·.toNat ≤ c.toNat) = r.chars.take place)
    (hys : ys.filter (·.toNat < c.toNat) = r.chars.drop place) :
    ∃ front behind, r.At (xs ++ c :: ys) front behind ∧ ∀ w : Writing, w.Matches r →
      resume (xs ++ c :: ys) basics r.code behind w =
        resume (xs ++ c :: ys) basics c.toNat ys (w.put basics n) := by
  have hlt : ∀ x ∈ r.chars, x.toNat < c.toNat := by
    intro x hx
    have hle := hr.le_code x hx
    omega
  have hne : ∀ x ∈ xs, x.toNat ≠ c.toNat :=
    ne_code_of_filter hxs fun y hy => hlt y (List.mem_of_mem_take hy)
  rw [filter_le_eq_filter_lt hne] at hxs
  have hread : (xs ++ c :: ys).filter (·.toNat < c.toNat) = r.chars := by
    rw [List.filter_append, hxs, List.filter_cons, if_neg (by simp), hys, List.take_append_drop]
  have hle : ∀ x ∈ xs ++ c :: ys, x.toNat < c.toNat → x.toNat ≤ r.code := by
    intro x hx hxc
    have hmem : x ∈ (xs ++ c :: ys).filter (·.toNat < c.toNat) :=
      List.mem_filter.mpr ⟨hx, decide_eq_true hxc⟩
    exact hr.le_code x (hread ▸ hmem)
  -- No character of the label lies between the two codes, so the reader knows all up to its own.
  have hsame : (xs ++ c :: ys).filter (·.toNat ≤ r.code) =
      r.chars.take r.place ++ r.chars.drop r.place := by
    rw [List.take_append_drop, ← hread]
    refine List.filter_congr fun x hx => decide_eq_decide.mpr ⟨fun h => ?_, hle x hx⟩
    omega
  obtain ⟨front, behind, hsplit, hfront, hbehind⟩ := List.filter_eq_append_iff.mp hsame
  have hleft : ∀ x ∈ behind, x.toNat ≠ r.code := ne_code_of_filter hbehind hr.lt_code
  rw [filter_le_eq_filter_lt hleft] at hbehind
  refine ⟨front, behind, ⟨hsplit, hfront, hbehind⟩, fun w hw => ?_⟩
  have hnone : ∀ x ∈ xs ++ c :: ys, r.code + 1 ≤ x.toNat → c.toNat ≤ x.toNat := by
    intro x hx hxr
    have hxc := hle x hx
    omega
  have hnumber : r.chars.length - r.place + 1 + (c.toNat - (r.code + 1)) * (r.chars.length + 1) +
      place = n := by
    obtain ⟨rest, rfl⟩ := Nat.exists_eq_add_of_lt hmore
    have hgap : c.toNat - (r.code + 1) = rest := by omega
    rw [Nat.zero_add, Nat.add_mul, Nat.one_mul] at hn
    have hle := hr.place_le
    rw [hgap]
    omega
  rw [resume, foldl_pass hleft, hbehind]
  dsimp only
  rw [writeCodes_codesFrom (Nat.le_succ_of_le hr.code_ge) (by omega) (by simp) hnone,
    resume_append_cons hne, hxs, List.length_take, List.length_drop, hw.delta, hw.count,
    Nat.min_eq_left hplace, Nat.zero_add, hnumber, Writing.put, Writing.put, hw.count]

/-- The place of a reader before it put a character into the label, and the number that a writer
writes there. -/
theorem exists_at_of_put {front behind : List Char} (hr : r.Between basics)
    (h : r.put (r.place + n) = some next) (hnext : next.At label front behind) :
    ∃ front' behind', r.At label front' behind' ∧ ∀ w : Writing, w.Matches r →
      resume label basics r.code behind' w =
        resume label basics next.code behind (w.put basics n) := by
  obtain ⟨c, place, more, hcode, hplace, hn, rfl⟩ := put_eq_some h
  obtain ⟨hsplit, hfront, hbehind⟩ := hnext
  dsimp only at hfront hbehind ⊢
  rw [take_put hplace] at hfront
  rw [drop_put hplace] at hbehind
  obtain ⟨before, after, rfl, hbefore, hafter⟩ := exists_append_cons_of_filter hfront
  have habove : ∀ x ∈ after, c.toNat < x.toNat := by
    intro x hx
    have hnot := of_decide_eq_false (hafter x hx)
    omega
  have hrest : (after ++ behind).filter (·.toNat < c.toNat) = r.chars.drop place := by
    rw [List.filter_append, hbehind, List.filter_eq_nil_iff.mpr, List.nil_append]
    intro x hx
    have hlt := habove x hx
    simp only [decide_eq_true_eq]
    omega
  rw [List.append_assoc, List.cons_append] at hsplit
  simp only [← resume_append_of_lt habove behind, hsplit]
  rcases Nat.eq_zero_or_pos more with rfl | hmore
  · obtain rfl : place = r.place + n := by omega
    exact exists_at_of_same hr hcode hplace hbefore hrest
  · exact exists_at_of_larger hr hmore hcode hplace hn hbefore hrest

theorem codesFrom_eq_nil (hcode : 0x80 ≤ code) (h : ∀ c ∈ label, c.toNat < code) :
    codesFrom label code = [] := by
  rw [List.eq_nil_iff_forall_not_mem]
  intro n hn
  obtain ⟨hle, c, hc, rfl⟩ := (mem_codesFrom hcode).mp hn
  exact absurd (h c hc) (Nat.not_lt.mpr hle)

/-- A writer of a label that is read to its end has no more to write. -/
theorem exists_at_of_done (hr : r.Between basics) :
    ∃ front behind, r.At r.chars front behind ∧ ∀ w : Writing,
      (resume r.chars basics r.code behind w).digits = w.digits := by
  refine ⟨r.chars.take r.place, r.chars.drop r.place, ⟨?_, ?_, ?_⟩, fun w => ?_⟩
  · rw [List.take_append_drop]
  · exact List.filter_eq_self.mpr fun c hc =>
      decide_eq_true (hr.le_code c (List.mem_of_mem_take hc))
  · exact List.filter_eq_self.mpr fun c hc => decide_eq_true (hr.lt_code c hc)
  · rw [resume, foldl_pass fun c hc => (hr.lt_code c hc).ne,
      codesFrom_eq_nil (Nat.le_succ_of_le hr.code_ge) fun c hc => Nat.lt_succ_of_le (hr.le_code c hc)]
    rfl

/-- **A writer writes what a reader has left to read.** -/
theorem resume_digits (hread : digits.foldlM Reading.step r = some last)
    (hlast : last.position = 36) (hsmall : ∀ c ∈ digits, c.isUpper = false)
    (hr : r.Between basics) :
    ∃ front behind, r.At last.chars front behind ∧ ∀ w : Writing, w.Matches r →
      (resume last.chars basics r.code behind w).digits = w.digits ++ digits := by
  induction hlength : digits.length using Nat.strong_induction_on generalizing digits r with
  | _ length ih =>
  -- The number in front leads to the next reader, which has fewer digits left.
  by_cases hdone : digits = []
  · subst hdone
    obtain rfl := Option.some.inj hread
    obtain ⟨front, behind, hat, hdigits⟩ := exists_at_of_done hr
    exact ⟨front, behind, hat, fun w _ => by rw [hdigits, List.append_nil]⟩
  · obtain ⟨n, rest, next, rfl, hput, hrest⟩ :=
      exists_number hread hlast (Nat.le_of_eq hr.position.symm) (.inl hdone) hsmall
    rw [hr.number, hr.weight, Nat.mul_one] at hput
    have hshorter : rest.length < length := by
      rw [← hlength, List.length_append]
      exact Nat.lt_add_of_pos_left (List.length_pos_of_ne_nil (writeNumber_ne_nil _ _ _))
    obtain ⟨front, behind, hnext, hdigits⟩ := ih rest.length hshorter hrest
      (fun c hc => hsmall c (List.mem_append_right _ hc)) (hr.put hput) rfl
    obtain ⟨front', behind', hat, hresume⟩ := exists_at_of_put hr hput hnext
    refine ⟨front', behind', hat, fun w hw => ?_⟩
    rw [hresume w hw, hdigits _ (hw.put hr hput), Writing.put, hw.bias, hr.position,
      List.append_assoc]

/-! ## Labels -/

/-- A reader at the start, behind the basic characters. -/
def Reading.start (before : List Char) : Reading :=
  ⟨before, 0x80, 0, 0, 1, 36, 72⟩

theorem between_start {before : List Char} (h : ∀ c ∈ before, isBasic c = true) :
    (Reading.start before).Between before.length := by
  have hlt : ∀ c ∈ before, c.toNat < 0x80 := fun c hc => of_decide_eq_true (h c hc)
  exact ⟨rfl, rfl, rfl, Nat.zero_le _, iff_of_true rfl rfl, Nat.le_refl _, Nat.le_refl _,
    fun c hc => Nat.le_of_lt (hlt c hc), hlt⟩

theorem writeCodes_next {ns : List Nat} (hle : m ≤ n) (h : ∀ code ∈ ns, n ≤ code) (w : Writing) :
    (writeCodes label basics ns m w).digits =
      (writeCodes label basics ns n
        { w with delta := w.delta + (n - m) * (w.count + 1) }).digits := by
  cases ns with
  | nil => rfl
  | cons code ns =>
    rw [List.forall_mem_cons] at h
    have hgap : code - m = n - m + (code - n) := by omega
    rw [writeCodes, writeCodes, hgap, Nat.add_mul, Nat.add_assoc]

/-- The writer of a label starts as if it stood at the first character that is not basic. -/
theorem writeCodes_codes {front behind : List Char} (hsplit : label = front ++ behind)
    (hfront : ∀ x ∈ front, 0x80 < x.toNat)
    (hcount : w.count = (behind.filter (·.toNat < 0x80)).length) :
    (writeCodes label basics (codes label) 0x80 w).digits =
      (resume label basics 0x80 behind w).digits := by
  have hcodes : codes label = codesFrom label 0x80 :=
    (List.filter_eq_self.mpr fun n hn => decide_eq_true (mem_codes.mp hn).1).symm
  rw [hcodes]
  by_cases hsome : ∃ c ∈ label, c.toNat = 0x80
  · obtain ⟨c, hc, hcode⟩ := hsome
    have hresume : resume label basics 0x80 (front ++ behind) w = resume label basics 0x80 behind w :=
      resume_append_of_lt hfront behind w
    rw [← hsplit] at hresume
    rw [writeCodes_codesFrom (Nat.le_refl _) hcode.ge hc fun x _ h => hcode ▸ h, hcode,
      Nat.sub_self, Nat.zero_mul, ← hresume]
    rfl
  · have hnone : ∀ x ∈ label, x.toNat ≠ 0x80 := fun x hx h => hsome ⟨x, hx, h⟩
    have hskip : ∀ c ∈ label, 0x80 ≤ c.toNat → 0x81 ≤ c.toNat := by
      intro c hc hle
      have hne := hnone c hc
      omega
    have hbehind : ∀ x ∈ behind, x.toNat ≠ 0x80 := fun x hx =>
      hnone x (hsplit ▸ List.mem_append_right front hx)
    rw [codesFrom_skip (Nat.le_refl _) (Nat.le_add_right 0x80 1) hskip,
      writeCodes_next (Nat.le_add_right 0x80 1) fun code hcode =>
        ((mem_codesFrom (by decide)).mp hcode).1, resume, foldl_pass hbehind, ← hcount,
      Nat.add_sub_cancel_left, Nat.one_mul, Nat.add_assoc]

/-- The digits of a label, and its basic characters, are those that were read. -/
theorem writeCodes_of_readDigits {before : List Char}
    (hread : readDigits before digits = some label) (hbefore : ∀ c ∈ before, isBasic c = true)
    (hsmall : ∀ c ∈ digits, c.isUpper = false) :
    label.filter isBasic = before ∧
      (writeCodes label before.length (codes label) 0x80 ⟨[], 0, 72, before.length⟩).digits =
        digits := by
  rw [readDigits, Option.bind_eq_bind, Option.bind_eq_some_iff] at hread
  obtain ⟨last, hread, hlabel⟩ := hread
  split_ifs at hlabel with hlast
  obtain rfl := Option.some.inj hlabel
  obtain ⟨front, behind, ⟨hsplit, hfront, hbehind⟩, hresume⟩ :=
    resume_digits hread hlast hsmall (between_start hbefore)
  have hbasic : behind.filter (·.toNat < 0x80) = before := hbehind
  have habove : ∀ x ∈ front, 0x80 < x.toNat := fun x hx =>
    Nat.not_le.mp (of_decide_eq_false (eq_false_of_ne_true (List.filter_eq_nil_iff.mp hfront x hx)))
  constructor
  · rw [hsplit, List.filter_append, List.filter_eq_nil_iff.mpr, List.nil_append]
    · exact hbasic
    · intro x hx
      have hlt := habove x hx
      rw [isBasic, decide_eq_true_eq]
      omega
  · rw [writeCodes_codes hsplit habove (congrArg List.length hbasic.symm)]
    exact hresume _ ⟨rfl, rfl, rfl⟩

theorem encode_of_readDigits {before : List Char}
    (hread : readDigits before digits = some label) (hbefore : ∀ c ∈ before, isBasic c = true)
    (hsmall : ∀ c ∈ digits, c.isUpper = false) :
    encode label = (if before.isEmpty then [] else before ++ ['-']) ++ digits := by
  obtain ⟨hbasics, hdigits⟩ := writeCodes_of_readDigits hread hbefore hsmall
  rw [← hdigits, ← hbasics]
  rfl

theorem takeWhile_append_cons_drop {p : Char → Bool}
    (h : xs.drop ((xs.takeWhile p).length + 1) ≠ []) :
    ∃ c, p c = false ∧ xs = xs.takeWhile p ++ c :: xs.drop ((xs.takeWhile p).length + 1) := by
  induction xs with
  | nil => exact absurd rfl h
  | cons x xs ih =>
    cases hx : p x with
    | false => exact ⟨x, hx, by rw [List.takeWhile_cons, hx]; rfl⟩
    | true =>
      rw [List.takeWhile_cons, if_pos hx] at h ⊢
      obtain ⟨c, hc, hsplit⟩ := ih h
      exact ⟨c, hc, congrArg (x :: ·) hsplit⟩

theorem isBasic_of_decode {text : List Char} (h : decode text = some label) :
    ∀ c ∈ text, isBasic c = true := by
  unfold decode at h
  dsimp only at h
  split_ifs at h with hbasic
  all_goals
    rw [Bool.not_eq_true', Bool.not_eq_false, List.all_eq_true] at hbasic
    exact hbasic

/-- **What is read is written the same**, if it has no capitals. -/
theorem encode_of_decode {text : List Char} (h : decode text = some label)
    (hsmall : ∀ c ∈ text, c.isUpper = false) : encode label = text := by
  have hbasic := isBasic_of_decode h
  unfold decode at h
  dsimp only at h
  split_ifs at h with _ hbefore
  · rw [encode_of_readDigits h (by simp) hsmall]
    rfl
  · rw [List.isEmpty_iff] at hbefore
    obtain ⟨c, hc, hsplit⟩ := takeWhile_append_cons_drop hbefore
    obtain rfl : c = '-' := by simpa using hc
    rw [List.reverse_eq_iff, List.reverse_append, List.reverse_cons] at hsplit
    rw [encode_of_readDigits h, if_neg (by simpa using hbefore), ← hsplit]
    · intro c hc
      exact hbasic c (List.mem_reverse.mp (List.mem_of_mem_drop (List.mem_reverse.mp hc)))
    · intro c hc
      rw [List.mem_reverse] at hc
      exact hsmall c (List.mem_reverse.mp (List.takeWhile_subset _ hc))

/-! ## The characters of the written form -/

section Chars

variable {P : Char → Prop}

theorem forall_mem_writeNumber (hdigit : ∀ value < 36, P (digit value)) (bias position n : Nat) :
    ∀ c ∈ writeNumber bias position n, P c := by
  induction position, n using writeNumber.induct bias with
  | case1 position n t hlt =>
    have hle : t ≤ 26 := threshold_le bias position
    rw [writeNumber_of_lt hlt, List.forall_mem_singleton]
    exact hdigit n (by omega)
  | case2 position n t hlt ih =>
    have hle : t ≤ 26 := threshold_le bias position
    have hmod : (n - t) % (36 - t) < 36 - t := Nat.mod_lt _ (by omega)
    rw [writeNumber, if_neg hlt, List.forall_mem_cons]
    exact ⟨hdigit (t + (n - t) % (36 - t)) (by omega), ih⟩

theorem forall_mem_pass (hdigit : ∀ value < 36, P (digit value)) (hw : ∀ c ∈ w.digits, P c)
    (x : Char) : ∀ c ∈ (w.pass basics code x).digits, P c := by
  unfold Writing.pass
  split_ifs
  · exact hw
  · exact List.forall_mem_append.mpr ⟨hw, forall_mem_writeNumber hdigit _ _ _⟩
  · exact hw

theorem forall_mem_writeCodes (hdigit : ∀ value < 36, P (digit value)) (ns : List Nat)
    (hw : ∀ c ∈ w.digits, P c) : ∀ c ∈ (writeCodes label basics ns m w).digits, P c := by
  induction ns generalizing m w with
  | nil => exact hw
  | cons code ns ih =>
    have hpass : ∀ (xs : List Char) (w : Writing), (∀ c ∈ w.digits, P c) →
        ∀ c ∈ (xs.foldl (Writing.pass basics code) w).digits, P c := by
      intro xs
      induction xs with
      | nil => exact fun w hw => hw
      | cons x xs ih => exact fun w hw => ih _ (forall_mem_pass hdigit hw x)
    exact ih (hpass label { w with delta := w.delta + (code - m) * (w.count + 1) } hw)

/-- The written form of a label is made of its basic characters, hyphens and digits. -/
theorem forall_mem_encode (hdigit : ∀ value < 36, P (digit value)) (hhyphen : P '-')
    (hlabel : ∀ c ∈ label, isBasic c = true → P c) : ∀ c ∈ encode label, P c := by
  have hbasics : ∀ c ∈ label.filter isBasic, P c := fun c hc =>
    hlabel c (List.mem_of_mem_filter hc) (List.of_mem_filter hc)
  refine List.forall_mem_append.mpr ⟨?_, forall_mem_writeCodes hdigit _ (by simp)⟩
  split_ifs
  · simp
  · exact List.forall_mem_append.mpr ⟨hbasics, List.forall_mem_singleton.mpr hhyphen⟩

end Chars

end SessionReplay.Idna.Punycode
