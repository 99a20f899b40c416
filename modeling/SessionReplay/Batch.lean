/-!
# Batches

Requests that follow each other closely are sent together. A batch is a run of items, each of which
follows the one before it by less than a threshold; the runs are told apart by `List.splitBy`.

* `Batch` — items that are sent together, and the pause before them;
* `Batch.split` — the batches of a list of items.
-/

namespace SessionReplay

variable {α : Type}

/-- Items that are sent together. The first batch has no pause before it. -/
structure Batch (α : Type) where
  pause : Option Int
  items : List α
  deriving DecidableEq, Repr

namespace Batch

/-- An item joins the batch of the item before it. A threshold of zero joins nothing. -/
def joins (gap : α → α → Int) (threshold : Int) (a b : α) : Bool :=
  0 < threshold && gap a b < threshold

/-- The pause between the last item of a run and the first one of the next run. Items that are out
of order have no pause. -/
def pauseBetween (gap : α → α → Int) (before run : List α) : Option Int := do
  let a ← before.getLast?
  let b ← run.head?
  return max (gap a b) 0

/-- Runs with the pauses before them. -/
def paced (gap : α → α → Int) : List α → List (List α) → List (Batch α)
  | _, [] => []
  | before, run :: runs => ⟨pauseBetween gap before run, run⟩ :: paced gap run runs

/-- The batches of a list of items. -/
def split (gap : α → α → Int) (threshold : Int) (items : List α) : List (Batch α) :=
  paced gap [] (items.splitBy (joins gap threshold))

end Batch

end SessionReplay
