import Mathlib.Algebra.BigOperators.Group.List.Basic
import Mathlib.Algebra.Order.Ring.Int
import SessionReplay.Proofs.Batch.Lockstep

/-!
# Pauses between batches

The gaps between the neighbours of a list add up to the time from its first item to its last one.
Each gap lies inside a batch or is the pause before one, so that the pauses fall short of that time
by the gaps inside batches, which are below the threshold.

* `Batch.pauses`, `Batch.neighbours` — the pauses between batches, and the neighbours inside them;
* `sum_gaps`: the gaps of a list add up;
* `threshold_le_of_mem_pauses`: no pause is shorter than the threshold;
* **`sum_gaps_sub_pauses`**: how far the pauses fall short.
-/

namespace SessionReplay.Batch

variable {α : Type} {gap : α → α → Int} {threshold : Int}

/-- The pauses between batches. -/
def pauses (batches : List (Batch α)) : List Int :=
  batches.filterMap Batch.pause

/-- The neighbours that share a batch. -/
def neighbours (batches : List (Batch α)) : List (α × α) :=
  batches.flatMap fun batch => batch.items.zip batch.items.tail

/-! ## Item by item -/

/-- The first batch begins with the first item and has no pause. -/
theorem exists_split_cons (gap : α → α → Int) (threshold : Int) (a : α) (l : List α) :
    ∃ run later, split gap threshold (a :: l) = ⟨none, a :: run⟩ :: later := by
  obtain ⟨run, runs, h⟩ := exists_splitBy_cons (joins gap threshold) a l
  exact ⟨run, paced gap (a :: run) runs, by rw [split, h, paced]; rfl⟩

theorem pauses_split_cons_cons (a b : α) (l : List α) :
    pauses (split gap threshold (a :: b :: l)) =
      if joins gap threshold a b then pauses (split gap threshold (b :: l))
      else max (gap a b) 0 :: pauses (split gap threshold (b :: l)) := by
  obtain ⟨run, later, h⟩ := exists_split_cons gap threshold b l
  rw [split_cons_cons, h]
  split_ifs <;> rfl

theorem neighbours_split_cons_cons (a b : α) (l : List α) :
    neighbours (split gap threshold (a :: b :: l)) =
      if joins gap threshold a b then (a, b) :: neighbours (split gap threshold (b :: l))
      else neighbours (split gap threshold (b :: l)) := by
  obtain ⟨run, later, h⟩ := exists_split_cons gap threshold b l
  rw [split_cons_cons, h]
  split_ifs <;> rfl

/-! ## Single pauses -/

theorem nonneg_of_mem_pauses {items : List α} {pause : Int}
    (h : pause ∈ pauses (split gap threshold items)) : 0 ≤ pause := by
  induction items with
  | nil => cases h
  | cons a items ih =>
    cases items with
    | nil => cases h
    | cons b l =>
      rw [pauses_split_cons_cons] at h
      split_ifs at h
      · exact ih h
      · rcases List.mem_cons.mp h with rfl | h
        · exact le_max_right _ _
        · exact ih h

/-- **No pause is shorter than a positive threshold**, as items with a shorter gap would join. -/
theorem threshold_le_of_mem_pauses (ht : 0 < threshold) {items : List α} {pause : Int}
    (h : pause ∈ pauses (split gap threshold items)) : threshold ≤ pause := by
  induction items with
  | nil => cases h
  | cons a items ih =>
    cases items with
    | nil => cases h
    | cons b l =>
      rw [pauses_split_cons_cons] at h
      split_ifs at h with hjoins
      · exact ih h
      · rw [joins_iff, not_and, not_lt] at hjoins
        rcases List.mem_cons.mp h with rfl | h
        · exact (hjoins ht).trans (le_max_left _ _)
        · exact ih h

/-! ## Sums -/

/-- Gaps that are differences of a count add up to the difference between the ends. -/
theorem sum_gaps {count : α → Int} {a last : α} {l : List α}
    (hgap : ∀ x ∈ a :: l, ∀ y ∈ a :: l, gap x y = count y - count x)
    (hlast : (a :: l).getLast? = some last) : (gaps gap (a :: l)).sum = count last - count a := by
  induction l generalizing a with
  | nil =>
    cases hlast
    exact (sub_self _).symm
  | cons b l ih =>
    have hab := hgap a List.mem_cons_self b (List.mem_cons_of_mem _ List.mem_cons_self)
    have hrest := ih (fun x hx y hy =>
      hgap x (List.mem_cons_of_mem _ hx) y (List.mem_cons_of_mem _ hy))
      (by rwa [List.getLast?_cons_cons] at hlast)
    rw [gaps_cons_cons, List.sum_cons, hrest, hab]
    omega

/-- **How far the pauses fall short of all gaps**, if no gap is negative: by less than the threshold
for each two neighbours that share a batch. -/
theorem sum_gaps_sub_pauses (threshold : Int) {items : List α}
    (h : items.IsChain fun a b => 0 ≤ gap a b) :
    (pauses (split gap threshold items)).sum ≤ (gaps gap items).sum ∧
      (gaps gap items).sum ≤ (pauses (split gap threshold items)).sum +
        (neighbours (split gap threshold items)).length * threshold := by
  induction items with
  | nil => exact ⟨le_rfl, by simp [gaps, pauses, neighbours]⟩
  | cons a items ih =>
    cases items with
    | nil => exact ⟨le_rfl, by simp [gaps, pauses, neighbours]⟩
    | cons b l =>
      rw [List.isChain_cons_cons] at h
      obtain ⟨hab, hrest⟩ := h
      obtain ⟨hle, hge⟩ := ih hrest
      rw [gaps_cons_cons, pauses_split_cons_cons, neighbours_split_cons_cons, List.sum_cons]
      split_ifs with hjoins
      · -- the gap lies inside a batch
        have hlt := (joins_iff.mp hjoins).2
        have hone :
            (((a, b) :: neighbours (split gap threshold (b :: l))).length : Int) * threshold =
              (neighbours (split gap threshold (b :: l))).length * threshold + threshold := by
          rw [List.length_cons, Nat.cast_succ, add_one_mul]
        omega
      · -- the gap is a pause
        rw [List.sum_cons, max_eq_left hab]
        omega

end SessionReplay.Batch
