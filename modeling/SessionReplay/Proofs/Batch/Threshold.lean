import SessionReplay.Proofs.Batch.Pace

/-!
# Batches under two thresholds

Items that join under a threshold join under every higher one, so that a higher threshold puts
batches together and opens no new ones. That holds across the special case of a threshold that is
not positive, under which no items join.

* `Batch.Opens` — a batch opens with the item at a place, after a pause;
* `Batch.Merges` — batches in a row, put together as one;
* `exists_merged`: the batches under a higher threshold are put together from those under a lower
  one;
* `Merged.opens`, `Merged.length_le`, `Merged.pauses_sublist`: what that says about the items that
  open batches, the number of batches and the pauses between them.
-/

namespace SessionReplay.Batch

variable {α : Type} {gap : α → α → Int} {lower higher : Int}

/-- A batch opens with the item at a place, after a pause or at the start. -/
def Opens (batches : List (Batch α)) (place : Nat) (pause : Option Int) : Prop :=
  ∃ before batch after, batches = before ++ batch :: after ∧
    (before.flatMap Batch.items).length = place ∧ batch.pause = pause

/-- Batches in a row, put together as one: it has all their items, and it waits as the first of them
does. -/
structure Merges (group : List (Batch α)) (batch : Batch α) : Prop where
  items : group.flatMap Batch.items = batch.items
  pause : group.head?.map Batch.pause = some batch.pause

/-- Groups of batches in a row, each of which is put together as one batch. -/
abbrev Merged (groups : List (List (Batch α))) (batches : List (Batch α)) : Prop :=
  List.Forall₂ Merges groups batches

theorem joins_mono (h : lower ≤ higher) {a b : α} (hj : joins gap lower a b = true) :
    joins gap higher a b = true := by
  rw [joins_iff] at hj ⊢
  omega

/-! ## Single groups -/

section Group

variable {first batch : Batch α} {others group : List (Batch α)}

theorem Merges.exists_cons (h : Merges group batch) :
    ∃ first others, group = first :: others ∧ first.pause = batch.pause := by
  obtain ⟨first, hfirst, hpause⟩ := Option.map_eq_some_iff.mp h.pause
  obtain ⟨others, rfl⟩ := List.head?_eq_some_iff.mp hfirst
  exact ⟨first, others, rfl, hpause⟩

theorem Merges.singleton (batch : Batch α) : Merges [batch] batch :=
  ⟨List.flatMap_singleton .., rfl⟩

theorem Merges.prepend (a : α) (h : Merges (first :: others) batch) :
    Merges (first.prepend a :: others) (batch.prepend a) where
  items := congrArg (a :: ·) h.items
  pause := h.pause

theorem Merges.delayed (pause : Int) (h : Merges (first :: others) batch) :
    Merges (first.delayed pause :: others) (batch.delayed pause) where
  items := h.items
  pause := rfl

/-- A batch of one item in front of the others, which wait after it, as one batch at the start. -/
theorem Merges.cons_delayed (a : α) (pause : Int) (h : Merges (first :: others) batch)
    (hstart : batch.pause = none) :
    Merges (⟨none, [a]⟩ :: first.delayed pause :: others) (batch.prepend a) where
  items := congrArg (a :: ·) h.items
  pause := congrArg some hstart.symm

end Group

/-! ## All groups -/

/-- **A higher threshold puts batches together**, and nothing else. -/
theorem exists_merged (gap : α → α → Int) (h : lower ≤ higher) (items : List α) :
    ∃ groups, groups.flatten = split gap lower items ∧ Merged groups (split gap higher items) := by
  induction items with
  | nil => exact ⟨[], rfl, .nil⟩
  | cons a items ih =>
    cases items with
    | nil => exact ⟨[[⟨none, [a]⟩]], rfl, .cons (.singleton _) .nil⟩
    | cons b l =>
      obtain ⟨groups, hflat, hmerged⟩ := ih
      obtain ⟨run, later, hhigher⟩ := exists_split_cons gap higher b l
      rw [hhigher] at hmerged
      obtain _ | @⟨group, _, groups, _, hgroup, hrest⟩ := hmerged
      obtain ⟨first, others, rfl, -⟩ := hgroup.exists_cons
      rw [split_cons_cons, split_cons_cons, hhigher, ← hflat]
      by_cases hlow : joins gap lower a b = true
      · -- the two items share a batch under both thresholds
        rw [if_pos hlow, if_pos (joins_mono h hlow)]
        exact ⟨(first.prepend a :: others) :: groups, rfl, .cons (hgroup.prepend a) hrest⟩
      · rw [if_neg hlow]
        split_ifs
        · -- only the higher threshold puts them together
          exact ⟨(⟨none, [a]⟩ :: first.delayed (max (gap a b) 0) :: others) :: groups, rfl,
            .cons (hgroup.cons_delayed a _ rfl) hrest⟩
        · exact ⟨[⟨none, [a]⟩] :: (first.delayed (max (gap a b) 0) :: others) :: groups, rfl,
            .cons (.singleton _) (.cons (hgroup.delayed _) hrest)⟩

variable {groups : List (List (Batch α))} {batches : List (Batch α)}

theorem Merged.items_flatten (h : Merged groups batches) :
    groups.flatten.flatMap Batch.items = batches.flatMap Batch.items := by
  induction h with
  | nil => rfl
  | cons hgroup _ ih =>
    rw [List.flatten_cons, List.flatMap_append, List.flatMap_cons, hgroup.items, ih]

/-- **An item that opens a batch opens one of its group**, after the same pause. -/
theorem Merged.opens (h : Merged groups batches) {place : Nat} {pause : Option Int}
    (hopens : Opens batches place pause) : Opens groups.flatten place pause := by
  obtain ⟨before, batch, after, rfl, rfl, rfl⟩ := hopens
  have hfront := List.forall₂_take_append groups before (batch :: after) h
  have hback := List.forall₂_drop_append groups before (batch :: after) h
  rw [← List.take_append_drop before.length groups]
  generalize groups.take before.length = front at hfront ⊢
  generalize groups.drop before.length = back at hback ⊢
  obtain _ | @⟨group, _, back, _, hgroup, -⟩ := hback
  obtain ⟨first, others, rfl, hpause⟩ := hgroup.exists_cons
  refine ⟨front.flatten, first, others ++ back.flatten, ?_, ?_, hpause⟩
  · rw [List.flatten_append, List.flatten_cons, List.cons_append]
  · rw [Merged.items_flatten hfront]

theorem Merged.length_le (h : Merged groups batches) : batches.length ≤ groups.flatten.length := by
  induction h with
  | nil => exact le_rfl
  | cons hgroup _ ih =>
    obtain ⟨first, others, rfl, -⟩ := hgroup.exists_cons
    rw [List.flatten_cons, List.length_append, List.length_cons, List.length_cons]
    omega

theorem pauses_cons (batch : Batch α) (batches : List (Batch α)) :
    pauses (batch :: batches) = batch.pause.toList ++ pauses batches := by
  rw [pauses, pauses, List.filterMap_cons]
  cases batch.pause <;> rfl

/-- **The pauses between groups are among those between their batches.** -/
theorem Merged.pauses_sublist (h : Merged groups batches) :
    (pauses batches).Sublist (pauses groups.flatten) := by
  induction h with
  | nil => exact .slnil
  | @cons group batch groups batches hgroup _ ih =>
    obtain ⟨first, others, rfl, hpause⟩ := hgroup.exists_cons
    rw [List.flatten_cons, List.cons_append, pauses_cons, pauses_cons, hpause]
    have hrest : (pauses groups.flatten).Sublist (pauses (others ++ groups.flatten)) := by
      rw [pauses, pauses, List.filterMap_append]
      exact List.sublist_append_right ..
    exact (ih.trans hrest).append_left _

end SessionReplay.Batch
