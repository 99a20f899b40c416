import SessionReplay.Proofs.Batch.Partition

/-!
# Batches of two lists in lockstep

* `Batch.gaps` — the gaps between the neighbours of a list;
* `Batch.Matches` — two batches with one pause whose items are related one by one;
* **`split_lockstep`**: lists whose items are related and whose gaps are equal have batches that
  match.
-/

namespace SessionReplay.Batch

variable {α β : Type} {gap : α → α → Int} {gap' : β → β → Int} {threshold : Int}

/-- The gaps between the neighbours of a list. -/
def gaps (gap : α → α → Int) (items : List α) : List Int :=
  List.zipWith gap items items.tail

theorem gaps_cons_cons (a b : α) (l : List α) :
    gaps gap (a :: b :: l) = gap a b :: gaps gap (b :: l) := rfl

/-- Two batches with one pause whose items are related one by one. -/
structure Matches (R : α → β → Prop) (a : Batch α) (b : Batch β) : Prop where
  pause : a.pause = b.pause
  items : List.Forall₂ R a.items b.items

theorem forall₂_modifyHead {R : α → β → Prop} {f : α → α} {g : β → β} {l : List α} {m : List β}
    (h : List.Forall₂ R l m) (hfg : ∀ a b, R a b → R (f a) (g b)) :
    List.Forall₂ R (l.modifyHead f) (m.modifyHead g) := by
  cases h with
  | nil => exact .nil
  | cons hab htail => exact .cons (hfg _ _ hab) htail

/-- **Lists in lockstep have batches in lockstep**: whether two items join, and how long a batch
waits, depends on the gaps between neighbours only. -/
theorem split_lockstep {R : α → β → Prop} {xs : List α} {ys : List β} (h : List.Forall₂ R xs ys)
    (hgaps : gaps gap xs = gaps gap' ys) :
    List.Forall₂ (Matches R) (split gap threshold xs) (split gap' threshold ys) := by
  induction h with
  | nil => exact .nil
  | @cons a b l m hab htail ih =>
    cases htail with
    | nil => exact .cons ⟨rfl, .cons hab .nil⟩ .nil
    | @cons a' b' l m hab' htail =>
      rw [gaps_cons_cons, gaps_cons_cons, List.cons.injEq] at hgaps
      obtain ⟨hgap, hgaps⟩ := hgaps
      have hrest := ih hgaps
      have hjoins : joins gap threshold a a' = joins gap' threshold b b' := by
        rw [joins, joins, hgap]
      rw [split_cons_cons, split_cons_cons, hjoins, hgap]
      split_ifs
      · exact forall₂_modifyHead hrest fun x y hxy => ⟨hxy.pause, .cons hab hxy.items⟩
      · exact .cons ⟨rfl, .cons hab .nil⟩
          (forall₂_modifyHead hrest fun x y hxy => ⟨rfl, hxy.items⟩)

end SessionReplay.Batch
