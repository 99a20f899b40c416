import Mathlib.Tactic.SplitIfs

/-!
# Parts of a text

A text is split at all places of one character.

* `notMem_of_mem_parts`: that character is in none of the parts;
* `intercalate_parts`: the parts, put together again, are the text;
* `parts_intercalate`: and no other parts are.
-/

namespace SessionReplay.Text

/-- The parts of a text between the places of a character. -/
abbrev parts (c : Char) (text : String) : List String :=
  (text.toList.splitOn c).map String.ofList

variable {c : Char} {text part separator : String} {ps : List String}

theorem notMem_of_mem_splitOn {cs ds : List Char} (h : ds ∈ cs.splitOn c) : c ∉ ds := by
  induction cs generalizing ds with
  | nil =>
    rw [List.splitOn_nil, List.mem_singleton] at h
    rw [h]
    exact List.not_mem_nil
  | cons d cs ih =>
    rw [List.splitOn_cons_eq_if_modifyHead] at h
    split_ifs at h with hd
    · rcases List.mem_cons.mp h with rfl | h
      · exact List.not_mem_nil
      · exact ih h
    · -- the first part of the rest grows by a character that is no separator
      cases hparts : cs.splitOn c with
      | nil => exact absurd hparts (List.splitOn_ne_nil c cs)
      | cons first others =>
        rw [hparts, List.modifyHead_cons] at h
        rw [hparts] at ih
        rcases List.mem_cons.mp h with rfl | h
        · rw [List.mem_cons, not_or]
          exact ⟨fun hc => hd (beq_iff_eq.mpr hc.symm), ih List.mem_cons_self⟩
        · exact ih (List.mem_cons_of_mem _ h)

theorem map_toList_parts (c : Char) (text : String) :
    (parts c text).map String.toList = text.toList.splitOn c := by
  rw [List.map_map]
  exact (List.map_congr_left fun cs _ => String.toList_ofList).trans (List.map_id _)

theorem parts_ne_nil (c : Char) (text : String) : parts c text ≠ [] := by
  rw [ne_eq, List.map_eq_nil_iff]
  exact List.splitOn_ne_nil c text.toList

theorem notMem_of_mem_parts (h : part ∈ parts c text) : c ∉ part.toList := by
  have hmem := List.mem_map_of_mem (f := String.toList) h
  rw [map_toList_parts] at hmem
  exact notMem_of_mem_splitOn hmem

theorem intercalate_parts (h : separator.toList = [c]) (text : String) :
    separator.intercalate (parts c text) = text := by
  rw [← String.toList_inj, String.toList_intercalate, map_toList_parts, h]
  exact List.intercalate_splitOn c

theorem parts_intercalate (h : separator.toList = [c]) (hne : ps ≠ [])
    (hps : ∀ part ∈ ps, c ∉ part.toList) : parts c (separator.intercalate ps) = ps := by
  rw [parts, String.toList_intercalate, h,
    List.splitOn_intercalate c (List.forall_mem_map.mpr hps), List.map_map]
  · exact (List.map_congr_left fun part _ => String.ofList_toList).trans (List.map_id _)
  · rw [ne_eq, List.map_eq_nil_iff]
    exact hne

end SessionReplay.Text
