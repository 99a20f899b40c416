import Mathlib.Data.List.SplitBy
import SessionReplay.Conversion

/-!
# The partition into batches

* `Batch.Together` — two neighbours of the list lie in one batch;
* `Batch.Follows` — the pause of a batch is the gap after the batch before it;
* `Batch.IsPartition` — what the batches of a list are, said without `Batch.split`;
* `isPartition_iff`: there is one such list of batches, and `Batch.split` gives it;
* `split_cons_cons`: the batches of a list, item by item from the front;
* **`split_entries`**: the batches of the entries of a session.
-/

namespace SessionReplay.Batch

variable {α : Type} {gap : α → α → Int} {threshold : Int}

/-! ## Partitions -/

/-- The items at a place and at the next one lie in one batch. -/
def Together (batches : List (Batch α)) (place : Nat) : Prop :=
  ∃ before batch after, batches = before ++ batch :: after ∧
    (before.flatMap items).length ≤ place ∧
      place + 1 < (before.flatMap items).length + batch.items.length

/-- The second batch begins after the pause between the two, which is none if they overlap. -/
def Follows (gap : α → α → Int) (a b : Batch α) : Prop :=
  ∀ last ∈ a.items.getLast?, ∀ first ∈ b.items.head?, b.pause = some (max (gap last first) 0)

/-- **The batches of a list**: none is empty, all items are there in their order, two neighbours are
in one batch if the gap between them is below a positive threshold and otherwise not, and each batch
but the first one waits for the gap before it. -/
structure IsPartition (gap : α → α → Int) (threshold : Int) (items : List α)
    (batches : List (Batch α)) : Prop where
  nonempty : ∀ batch ∈ batches, batch.items ≠ []
  concat : batches.flatMap Batch.items = items
  together : ∀ place a b, items[place]? = some a → items[place + 1]? = some b →
    (Together batches place ↔ 0 < threshold ∧ gap a b < threshold)
  first : ∀ batch ∈ batches.head?, batch.pause = none
  later : batches.IsChain (Follows gap)

theorem joins_iff {a b : α} :
    joins gap threshold a b = true ↔ 0 < threshold ∧ gap a b < threshold := by
  simp [joins]

/-! ## Neighbours -/

theorem together_cons {batch : Batch α} {batches : List (Batch α)} {place : Nat} :
    Together (batch :: batches) place ↔ place + 1 < batch.items.length ∨
      ∃ rest, place = batch.items.length + rest ∧ Together batches rest := by
  constructor
  · rintro ⟨before, other, after, h, hle, hlt⟩
    cases before with
    | nil =>
      obtain ⟨rfl, rfl⟩ := List.cons.inj h
      exact Or.inl (by simpa using hlt)
    | cons x before =>
      obtain ⟨rfl, rfl⟩ := List.cons.inj h
      rw [List.flatMap_cons, List.length_append] at hle hlt
      exact Or.inr ⟨place - batch.items.length, by omega, before, other, after, rfl, by omega,
        by omega⟩
  · rintro (h | ⟨rest, rfl, before, other, after, rfl, hle, hlt⟩)
    · exact ⟨[], batch, batches, rfl, Nat.zero_le _, by simpa using h⟩
    · refine ⟨batch :: before, other, after, rfl, ?_, ?_⟩ <;>
        rw [List.flatMap_cons, List.length_append] <;> omega

/-- The neighbours of two lists put together are those of each list and the two at the seam. -/
theorem forall_neighbours_append {l m : List α} {P : Nat → α → α → Prop} :
    (∀ place a b, (l ++ m)[place]? = some a → (l ++ m)[place + 1]? = some b → P place a b) ↔
      (∀ place a b, l[place]? = some a → l[place + 1]? = some b → P place a b) ∧
      (∀ a ∈ l.getLast?, ∀ b ∈ m.head?, P (l.length - 1) a b) ∧
      ∀ place a b, m[place]? = some a → m[place + 1]? = some b → P (l.length + place) a b := by
  constructor
  · intro h
    refine ⟨fun place a b ha hb => ?_, fun a ha b hb => ?_, fun place a b ha hb => ?_⟩
    · have hlt := (List.getElem?_eq_some_iff.mp hb).1
      exact h place a b (by rw [List.getElem?_append_left (by omega), ha])
        (by rw [List.getElem?_append_left hlt, hb])
    · have hl : l ≠ [] := by rintro rfl; simp at ha
      have hpos := List.length_pos_iff.mpr hl
      refine h (l.length - 1) a b ?_ ?_
      · rw [List.getElem?_append_left (by omega), ← List.getLast?_eq_getElem?]; exact ha
      · rw [List.getElem?_append_right (by omega), ← hb, List.head?_eq_getElem?]
        congr 1; omega
    · refine h (l.length + place) a b ?_ ?_
      · rw [List.getElem?_append_right (by omega), Nat.add_sub_cancel_left, ha]
      · rw [List.getElem?_append_right (by omega), ← hb]
        congr 1; omega
  · rintro ⟨h1, h2, h3⟩ place a b ha hb
    rcases Nat.lt_trichotomy (place + 1) l.length with hlt | heq | hgt
    · rw [List.getElem?_append_left (by omega)] at ha hb
      exact h1 place a b ha hb
    · rw [List.getElem?_append_left (by omega)] at ha
      rw [List.getElem?_append_right (by omega), heq, Nat.sub_self] at hb
      have hp : place = l.length - 1 := by omega
      rw [hp] at ha ⊢
      exact h2 a (by rw [List.getLast?_eq_getElem?]; exact ha) b
        (by rw [List.head?_eq_getElem?]; exact hb)
    · rw [List.getElem?_append_right (by omega)] at ha hb
      have hp : place = l.length + (place - l.length) := by omega
      rw [hp]
      exact h3 (place - l.length) a b ha (by rw [← hb]; congr 1; omega)

theorem isChain_iff_neighbours {r : α → α → Prop} {l : List α} :
    l.IsChain r ↔ ∀ place a b, l[place]? = some a → l[place + 1]? = some b → r a b := by
  rw [List.isChain_iff_getElem]
  constructor
  · intro h place a b ha hb
    obtain ⟨_, rfl⟩ := List.getElem?_eq_some_iff.mp ha
    obtain ⟨hlt, rfl⟩ := List.getElem?_eq_some_iff.mp hb
    exact h place hlt
  · intro h place hlt
    exact h place _ _ (List.getElem?_eq_getElem (by omega)) (List.getElem?_eq_getElem hlt)

theorem head?_flatMap_items {batches : List (Batch α)} (hn : ∀ batch ∈ batches, batch.items ≠ []) :
    (batches.flatMap Batch.items).head? = batches.head?.bind fun batch => batch.items.head? := by
  cases batches with
  | nil => rfl
  | cons batch batches =>
    have hbatch := List.head?_eq_some_head (hn batch List.mem_cons_self)
    rw [List.flatMap_cons, List.head?_append, List.head?_cons, Option.bind_some, hbatch,
      Option.some_or]

/-- Neighbours are together as they should be if they are so inside each batch and at each seam. -/
theorem together_iff_chains {batches : List (Batch α)} {r : α → α → Bool}
    (hn : ∀ batch ∈ batches, batch.items ≠ []) :
    (∀ place a b, (batches.flatMap Batch.items)[place]? = some a →
      (batches.flatMap Batch.items)[place + 1]? = some b →
        (Together batches place ↔ r a b = true)) ↔
      (∀ batch ∈ batches, batch.items.IsChain fun a b => r a b = true) ∧
      batches.IsChain fun x y =>
        ∀ a ∈ x.items.getLast?, ∀ b ∈ y.items.head?, r a b = false := by
  induction batches with
  | nil => simp
  | cons batch batches ih =>
    have hbatch : 0 < batch.items.length := List.length_pos_iff.mpr (hn batch List.mem_cons_self)
    have hrest := fun x hx => hn x (List.mem_cons_of_mem batch hx)
    have hinner : ∀ place, place + 1 < batch.items.length → Together (batch :: batches) place :=
      fun place h => together_cons.mpr (Or.inl h)
    have hseam : ¬ Together (batch :: batches) (batch.items.length - 1) := by
      rw [together_cons]
      rintro (h | ⟨rest, h, _⟩) <;> omega
    have hlater : ∀ place, Together (batch :: batches) (batch.items.length + place) ↔
        Together batches place := by
      intro place
      rw [together_cons]
      constructor
      · rintro (h | ⟨rest, h, hr⟩)
        · omega
        · rwa [show place = rest by omega]
      · exact fun h => Or.inr ⟨place, rfl, h⟩
    rw [List.flatMap_cons, forall_neighbours_append, List.isChain_cons, List.forall_mem_cons,
      isChain_iff_neighbours (l := batch.items)]
    simp only [hlater, ih hrest]
    have h1 : (∀ place a b, batch.items[place]? = some a → batch.items[place + 1]? = some b →
        (Together (batch :: batches) place ↔ r a b = true)) ↔
        ∀ place a b, batch.items[place]? = some a → batch.items[place + 1]? = some b →
          r a b = true := by
      refine forall_congr' fun place => forall_congr' fun a => forall_congr' fun b =>
        imp_congr_right fun _ => imp_congr_right fun hb => ?_
      rw [iff_true_left (hinner place (List.getElem?_eq_some_iff.mp hb).1)]
    have h2 : (∀ a ∈ batch.items.getLast?, ∀ b ∈ (batches.flatMap Batch.items).head?,
        (Together (batch :: batches) (batch.items.length - 1) ↔ r a b = true)) ↔
        ∀ y ∈ batches.head?, ∀ a ∈ batch.items.getLast?, ∀ b ∈ y.items.head?, r a b = false := by
      rw [head?_flatMap_items hrest]
      simp only [iff_false_left hseam, Bool.not_eq_true, Option.mem_def, Option.bind_eq_some_iff]
      exact ⟨fun h y hy a ha b hb => h a ha b ⟨y, hy, hb⟩,
        fun h a ha b ⟨y, hy, hb⟩ => h y hy a ha b hb⟩
    rw [h1, h2]
    tauto

/-! ## Runs and pauses -/

theorem map_items_paced {before : List α} {runs : List (List α)} :
    (paced gap before runs).map Batch.items = runs := by
  induction runs generalizing before with
  | nil => rfl
  | cons run runs ih => rw [paced, List.map_cons, ih]

theorem map_items_split (items : List α) :
    (split gap threshold items).map Batch.items = items.splitBy (joins gap threshold) :=
  map_items_paced

theorem follows_iff {a b : Batch α} (ha : a.items ≠ []) (hb : b.items ≠ []) :
    Follows gap a b ↔ b.pause = pauseBetween gap a.items b.items := by
  have hlast := List.getLast?_eq_some_getLast ha
  have hfirst := List.head?_eq_some_head hb
  simp [Follows, pauseBetween, hlast, hfirst]

/-- The pauses of batches are those of their runs. -/
theorem eq_paced_iff {before : List α} {batches : List (Batch α)}
    (hn : ∀ batch ∈ batches, batch.items ≠ []) :
    batches = paced gap before (batches.map Batch.items) ↔
      (∀ batch ∈ batches.head?, batch.pause = pauseBetween gap before batch.items) ∧
        batches.IsChain (Follows gap) := by
  induction batches generalizing before with
  | nil => simp [paced]
  | cons batch batches ih =>
    have hrest := fun x hx => hn x (List.mem_cons_of_mem batch hx)
    have hhead : (∀ y ∈ batches.head?, y.pause = pauseBetween gap batch.items y.items) ↔
        ∀ y ∈ batches.head?, Follows gap batch y :=
      forall₂_congr fun y hy => (follows_iff (hn batch List.mem_cons_self)
        (hrest y (List.mem_of_mem_head? hy))).symm
    rw [List.map_cons, paced, List.cons.injEq, ih hrest, List.isChain_cons, hhead]
    cases batch
    simp

/-- The runs of a list are the one way to cut it at the neighbours that do not join. -/
theorem splitBy_eq_map_items_iff {items : List α} {batches : List (Batch α)} {r : α → α → Bool} :
    items.splitBy r = batches.map Batch.items ↔
      (∀ batch ∈ batches, batch.items ≠ []) ∧ batches.flatMap Batch.items = items ∧
        (∀ batch ∈ batches, batch.items.IsChain fun a b => r a b = true) ∧
          batches.IsChain fun x y =>
            ∀ a ∈ x.items.getLast?, ∀ b ∈ y.items.head?, r a b = false := by
  rw [List.splitBy_eq_iff, ← List.flatMap_def, eq_comm (a := items), List.isChain_map]
  have hnil : [] ∉ batches.map Batch.items ↔ ∀ batch ∈ batches, batch.items ≠ [] := by
    simp
  have hchain : (∀ m ∈ batches.map Batch.items, m.IsChain fun a b => r a b = true) ↔
      ∀ batch ∈ batches, batch.items.IsChain fun a b => r a b = true := List.forall_mem_map
  rw [hnil, hchain, and_left_comm]
  refine and_congr_right fun hn => and_congr_right fun _ => and_congr_right fun _ => ?_
  refine List.IsChain.iff_of_mem_imp fun x y hx hy => ?_
  have hlast := List.getLast?_eq_some_getLast (hn x hx)
  have hfirst := List.head?_eq_some_head (hn y hy)
  simp [hlast, hfirst, hn x hx, hn y hy]

theorem isSome_pause_of_mem_paced {before : List α} {runs : List (List α)} (hb : before ≠ [])
    (hn : [] ∉ runs) {batch : Batch α} (h : batch ∈ paced gap before runs) :
    ∃ pause, batch.pause = some pause := by
  induction runs generalizing before with
  | nil => cases h
  | cons run runs ih =>
    rw [List.mem_cons, not_or] at hn
    rcases List.mem_cons.mp h with rfl | h
    · have hlast := List.getLast?_eq_some_getLast hb
      have hfirst := List.head?_eq_some_head (Ne.symm hn.1)
      exact ⟨_, by rw [pauseBetween, hlast, hfirst]; rfl⟩
    · exact ih (Ne.symm hn.1) hn.2 h

/-- The first batch has no pause, and all others have one. -/
theorem pauses_of_split_eq_cons {items : List α} {first : Batch α} {later : List (Batch α)}
    (h : split gap threshold items = first :: later) :
    first.pause = none ∧ ∀ batch ∈ later, ∃ pause, batch.pause = some pause := by
  have hn := List.nil_notMem_splitBy (joins gap threshold) items
  rw [split] at h
  cases hruns : items.splitBy (joins gap threshold) with
  | nil =>
    rw [hruns] at h
    cases h
  | cons run runs =>
    rw [hruns, List.mem_cons, not_or] at hn
    rw [hruns, paced, List.cons.injEq] at h
    obtain ⟨rfl, rfl⟩ := h
    exact ⟨rfl, fun batch hbatch => isSome_pause_of_mem_paced (Ne.symm hn.1) hn.2 hbatch⟩

theorem pause_eq_none_iff {items : List α} {batch : Batch α} {place : Nat}
    (h : (split gap threshold items)[place]? = some batch) : batch.pause = none ↔ place = 0 := by
  cases hsplit : split gap threshold items with
  | nil =>
    rw [hsplit] at h
    cases h
  | cons first later =>
    obtain ⟨hfirst, hlater⟩ := pauses_of_split_eq_cons hsplit
    rw [hsplit] at h
    cases place with
    | zero =>
      cases h
      exact iff_of_true hfirst rfl
    | succ place =>
      obtain ⟨pause, hpause⟩ := hlater batch (List.mem_of_getElem? h)
      rw [hpause]
      exact iff_of_false nofun nofun

/-- **There is one partition of a list into batches**, and `split` gives it. -/
theorem isPartition_iff {items : List α} {batches : List (Batch α)} :
    IsPartition gap threshold items batches ↔ batches = split gap threshold items := by
  have hruns : ((∀ batch ∈ batches, batch.items ≠ []) ∧ batches.flatMap Batch.items = items ∧
      ∀ place a b, items[place]? = some a → items[place + 1]? = some b →
        (Together batches place ↔ 0 < threshold ∧ gap a b < threshold)) ↔
      items.splitBy (joins gap threshold) = batches.map Batch.items := by
    rw [splitBy_eq_map_items_iff]
    refine and_congr_right fun hn => and_congr_right fun hc => ?_
    rw [← together_iff_chains hn, hc]
    simp only [joins_iff]
  constructor
  · rintro ⟨hn, hc, ht, hfirst, hlater⟩
    rw [split, hruns.mp ⟨hn, hc, ht⟩, eq_paced_iff hn]
    exact ⟨hfirst, hlater⟩
  · intro h
    have hmap : items.splitBy (joins gap threshold) = batches.map Batch.items := by
      rw [h, map_items_split]
    obtain ⟨hn, hc, ht⟩ := hruns.mpr hmap
    rw [split, hmap, eq_paced_iff hn] at h
    exact ⟨hn, hc, ht, h.1, h.2⟩

/-! ## Item by item -/

theorem exists_splitBy_cons (r : α → α → Bool) (a : α) (l : List α) :
    ∃ run runs, (a :: l).splitBy r = (a :: run) :: runs := by
  have hflat := List.flatten_splitBy r (a :: l)
  have hne := List.nil_notMem_splitBy r (a :: l)
  cases h : (a :: l).splitBy r with
  | nil => simp [h] at hflat
  | cons first runs =>
    rw [h] at hflat hne
    cases first with
    | nil => simp at hne
    | cons b run =>
      rw [List.flatten_cons, List.cons_append, List.cons.injEq] at hflat
      exact ⟨run, runs, by rw [hflat.1]⟩

theorem splitBy_cons_of_joins {r : α → α → Bool} {a b : α} {l run : List α} {runs : List (List α)}
    (hr : r a b = true) (h : (b :: l).splitBy r = (b :: run) :: runs) :
    (a :: b :: l).splitBy r = (a :: b :: run) :: runs := by
  rw [List.splitBy_eq_iff] at h ⊢
  obtain ⟨hflat, hne, hchain, hseam⟩ := h
  refine ⟨by rw [hflat]; rfl, by simpa using hne, ?_, ?_⟩
  · rw [List.forall_mem_cons] at hchain ⊢
    exact ⟨List.isChain_cons_cons.mpr ⟨hr, hchain.1⟩, hchain.2⟩
  · rw [List.isChain_cons] at hseam ⊢
    refine ⟨fun y hy => ?_, hseam.2⟩
    obtain ⟨_, hy', h⟩ := hseam.1 y hy
    exact ⟨List.cons_ne_nil _ _, hy', by rwa [List.getLast_cons_cons]⟩

/-- The batch with one more item at its front. -/
def prepend (a : α) (batch : Batch α) : Batch α := { batch with items := a :: batch.items }

/-- The batch after a pause. -/
def delayed (pause : Int) (batch : Batch α) : Batch α := { batch with pause := some pause }

@[simp] theorem split_nil : split gap threshold ([] : List α) = [] := rfl

@[simp] theorem split_singleton (a : α) : split gap threshold [a] = [⟨none, [a]⟩] := rfl

/-- **The batches of a list, item by item**: the first item joins the first batch of the others, or
it is a batch of its own, after which that one waits. -/
theorem split_cons_cons (a b : α) (l : List α) :
    split gap threshold (a :: b :: l) =
      if joins gap threshold a b then (split gap threshold (b :: l)).modifyHead (prepend a)
      else ⟨none, [a]⟩ ::
        (split gap threshold (b :: l)).modifyHead (delayed (max (gap a b) 0)) := by
  obtain ⟨run, runs, h⟩ := exists_splitBy_cons (joins gap threshold) b l
  split_ifs with hj
  · rw [split, split, splitBy_cons_of_joins hj h, h]
    -- the pauses further on depend on the last item of the run only
    cases runs <;> simp [paced, prepend, pauseBetween, List.getLast?_cons_cons]
  · have hsingle : (a :: b :: l).splitBy (joins gap threshold) = [a] :: (b :: run) :: runs := by
      rw [← List.singleton_append, List.splitBy_append_cons, h]
      · rfl
      · simpa using hj
    rw [split, split, hsingle, h]
    simp [paced, delayed, pauseBetween]

/-! ## Few and many batches -/

theorem split_eq_nil_iff {items : List α} : split gap threshold items = [] ↔ items = [] := by
  obtain ⟨hn, hc, -⟩ := isPartition_iff.mpr (rfl : split gap threshold items = _)
  constructor
  · intro h
    rw [← hc, h]
    rfl
  · rintro rfl
    rfl

/-- Without a positive threshold each item is a batch of its own. -/
theorem eq_singleton_of_mem_split (ht : threshold ≤ 0) {items : List α} {batch : Batch α}
    (h : batch ∈ split gap threshold items) : ∃ a, batch.items = [a] := by
  have hmem : batch.items ∈ items.splitBy (joins gap threshold) := by
    rw [← map_items_split]
    exact List.mem_map_of_mem h
  have hchain := List.isChain_of_mem_splitBy hmem
  have hne := List.ne_nil_of_mem_splitBy hmem
  match hitems : batch.items with
  | [] => exact absurd hitems hne
  | [a] => exact ⟨a, rfl⟩
  | a :: b :: rest =>
    rw [hitems, List.isChain_cons_cons, joins_iff] at hchain
    omega

/-- Items that all join are one batch. -/
theorem split_of_isChain (ht : 0 < threshold) {items : List α} (hne : items ≠ [])
    (h : items.IsChain fun a b => gap a b < threshold) :
    split gap threshold items = [⟨none, items⟩] := by
  rw [split, List.splitBy_of_isChain hne (h.imp fun a b hab => joins_iff.mpr ⟨ht, hab⟩)]
  rfl

/-! ## Entries -/

open Capture (Entry)

/-- **The batches of the entries of a session** are the one partition of them. There are none only
if there are no entries, each entry is alone if the threshold is not positive, and all are in one
batch if it is greater than all gaps. -/
theorem split_entries (threshold : Int) (entries : List Entry) :
    (∀ batches, IsPartition Conversion.gap threshold entries batches ↔
      batches = split Conversion.gap threshold entries) ∧
    (split Conversion.gap threshold entries = [] ↔ entries = []) ∧
    (threshold ≤ 0 → ∀ batch ∈ split Conversion.gap threshold entries,
      ∃ entry, batch.items = [entry]) ∧
    (0 < threshold → entries ≠ [] →
      (∀ place a b, entries[place]? = some a → entries[place + 1]? = some b →
        Conversion.gap a b < threshold) →
      split Conversion.gap threshold entries = [⟨none, entries⟩]) :=
  ⟨fun _ => isPartition_iff, split_eq_nil_iff, fun ht _ h => eq_singleton_of_mem_split ht h,
    fun ht hne h => split_of_isChain ht hne (isChain_iff_neighbours.mpr h)⟩

example : split (fun a b : Int => b - a) 500 [0, 100, 600, 300, 299, 2000] =
    [⟨none, [0, 100]⟩, ⟨some 500, [600, 300, 299]⟩, ⟨some 1701, [2000]⟩] := by decide

end SessionReplay.Batch
