import Mathlib.Data.List.Count
import Mathlib.Data.List.Nodup
import SessionReplay.Proofs.Json.Record

/-!
# Plain writing

One of the ways to write a value: texts without escapes, and no white space.

* `quoted` — a text between quotes;
* `listed`, `array`, `object` — items between commas, a list, and the members of an object;
* **`writesText_quoted`, `writesList_array`, `writesRecord_array`, `writesRecord_object`**: these
  write texts, lists and records.
-/

namespace SessionReplay.Json

variable {α : Type} {closing : UInt8} {s : String} {slots : List Slot}
  {members : List (String × List UInt8)}

/-- A text none of whose characters needs an escape. -/
def NeedsNoEscape (s : String) : Prop :=
  ∀ c ∈ s.toList, 0x20 ≤ c.toNat ∧ c ≠ '"' ∧ c ≠ '\\'

-- By the characters of the text: `Char` is finite, and an instance that is searched for may go
-- through all of them.
instance : DecidablePred NeedsNoEscape := fun s => List.decidableBAll _ s.toList

/-- A text between quotes. -/
def quoted (s : String) : List UInt8 := '"'.toUInt8 :: (Text.bytes s ++ ['"'.toUInt8])

theorem writesText_quoted (h : NeedsNoEscape s) : WritesText s (quoted s) := by
  refine ⟨s.toList.map String.utf8EncodeChar, ?_, ?_⟩
  · rw [List.forall₂_map_right_iff, List.forall₂_same]
    exact fun c hc => .literal (h c hc).1 (h c hc).2.1 (h c hc).2.2
  · rw [quoted, Text.bytes_eq_flatMap, List.flatMap_def]

/-! ## Items -/

/-- More items with commas before them, up to a closing bracket. -/
def continued (closing : UInt8) : List (List UInt8) → List UInt8
  | [] => [closing]
  | v :: vs => ','.toUInt8 :: (v ++ continued closing vs)

/-- Items with commas between them, up to a closing bracket. -/
def listed (closing : UInt8) : List (List UInt8) → List UInt8
  | [] => [closing]
  | v :: vs => v ++ continued closing vs

theorem continued_continued (vs : List (List UInt8)) :
    Continued closing vs (continued closing vs) := by
  induction vs with
  | nil => exact .ended blanks_nil
  | cons v vs ih => exact .next blanks_nil blanks_nil ih

theorem listed_listed (vs : List (List UInt8)) : Listed closing vs (listed closing vs) := by
  cases vs with
  | nil => exact .none blanks_nil
  | cons v vs => exact .some blanks_nil (continued_continued vs)

/-! ## Lists and objects -/

/-- A list. -/
def array (vs : List (List UInt8)) : List UInt8 := '['.toUInt8 :: listed ']'.toUInt8 vs

theorem writesList_array {W : α → List UInt8 → Prop} {as : List α} {vs : List (List UInt8)}
    (h : List.Forall₂ W as vs) : WritesList W as (array vs) :=
  ⟨vs, _, h, listed_listed vs, rfl⟩

theorem writesRecord_array {vs : List (List UInt8)} (h : List.Forall₂ Slot.Writes slots vs) :
    WritesRecord slots (array vs) :=
  .inr ⟨vs, _, h, listed_listed vs, rfl⟩

/-- A member with its key between quotes. -/
def member (m : String × List UInt8) : String × Member := (m.1, ⟨quoted m.1, [], [], m.2⟩)

/-- An object. -/
def object (members : List (String × List UInt8)) : List UInt8 :=
  '\x7b'.toUInt8 :: listed '\x7d'.toUInt8 (members.map fun m => (member m).2.bytes)

/-- **An object writes a record** if its keys are some of those of the record, in any order, and
each field that may not be left out is among them. -/
theorem writesRecord_object (hkeys : ∀ m ∈ members, NeedsNoEscape m.1)
    (hnodup : (members.map Prod.fst).Nodup) (hknown : ∀ m ∈ members, m.1 ∈ slots.map Slot.key)
    (hslots : ∀ slot ∈ slots, (∃ v, (slot.key, v) ∈ members ∧ slot.Writes v) ∨
      slot.key ∉ members.map Prod.fst ∧ slot.optional) : WritesRecord slots (object members) := by
  have hfst : (members.map member).map Prod.fst = members.map Prod.fst := by
    rw [List.map_map]
    rfl
  refine .inl ⟨members.map member, _, ⟨?_, ?_, ?_, ?_, ?_, ?_⟩, ?_, rfl⟩
  · exact List.forall_mem_map.mpr fun m hm => writesText_quoted (hkeys m hm)
  · exact List.forall_mem_map.mpr fun _ _ => ⟨blanks_nil, blanks_nil⟩
  · rw [hfst]
    exact fun slot _ => List.nodup_iff_count_le_one.mp hnodup slot.key
  · intro slot hslot
    rw [hfst]
    exact (hslots slot hslot).imp (fun ⟨v, hv, _⟩ => List.mem_map_of_mem hv) fun h => h.2
  · refine List.forall_mem_map.mpr fun m hm slot hslot hkey => ?_
    rcases hslots slot hslot with ⟨v, hv, hwrites⟩ | ⟨hnone, -⟩
    · rwa [← List.inj_on_of_nodup_map hnodup hv hm hkey]
    · exact absurd (hkey ▸ List.mem_map_of_mem hm) hnone
  · refine List.forall_mem_map.mpr fun m hm hother => ?_
    obtain ⟨slot, hslot, hkey⟩ := List.mem_map.mp (hknown m hm)
    exact absurd hkey (hother slot hslot)
  · rw [List.map_map]
    exact listed_listed _

end SessionReplay.Json
