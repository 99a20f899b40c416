import Mathlib.Tactic.SplitIfs
import SessionReplay.Disk.Place
import SessionReplay.Proofs.Text.Parts

/-!
# Names of written places

* `Place.names_append`, `Place.isAbsolute_append`: a text without a slash at the end of a place
  only changes its last name;
* `Place.intercalate_names`: a place is its names with slashes between them;
* `Place.parent?_slash`: **the folder of a file is the one before its name**, if that one ends in a
  name of its own;
* `Place.lineage_subset`: the folders above the folder of a file are above the file.
-/

namespace SessionReplay.Disk.Place

variable {path suffix folder name : String}

/-! ## The last name -/

theorem splitOn_append_of_notMem (cs : List Char) {ds : List Char} (h : '/' ∉ ds) : ∃ init last,
    cs.splitOn '/' = init ++ [last] ∧ (cs ++ ds).splitOn '/' = init ++ [last ++ ds] := by
  induction cs with
  | nil => exact ⟨[], [], rfl, List.splitOn_eq_singleton h⟩
  | cons c cs ih =>
    obtain ⟨init, last, hcs, hcsds⟩ := ih
    rw [List.cons_append, List.splitOn_cons_eq_if_modifyHead, List.splitOn_cons_eq_if_modifyHead,
      hcs, hcsds]
    split_ifs
    · exact ⟨[] :: init, last, rfl, rfl⟩
    · cases init with
      | nil => exact ⟨[], c :: last, rfl, rfl⟩
      | cons first init => exact ⟨(c :: first) :: init, last, rfl, rfl⟩

/-- A text without a slash at the end of a place is part of its last name. -/
theorem names_append (path : String) (h : '/' ∉ suffix.toList) : ∃ init last,
    names path = init ++ [last] ∧ names (path ++ suffix) = init ++ [last ++ suffix] := by
  obtain ⟨init, last, hpath, happend⟩ := splitOn_append_of_notMem path.toList h
  refine ⟨init.map String.ofList, String.ofList last, ?_, ?_⟩
  · rw [names, hpath, List.map_append]
    rfl
  · rw [names, String.toList_append, happend, List.map_append, List.map_singleton,
      String.ofList_append, String.ofList_toList]

theorem isAbsolute_iff : isAbsolute path = true ↔ path.toList.head? = some '/' := by
  rw [isAbsolute, String.startsWith_string_iff]
  change ['/'] <+: _ ↔ _
  cases path.toList with
  | nil => simp
  | cons c cs => simp [eq_comm]

theorem isAbsolute_append (h : '/' ∉ suffix.toList) :
    isAbsolute (path ++ suffix) = isAbsolute path := by
  rw [Bool.eq_iff_iff, isAbsolute_iff, isAbsolute_iff, String.toList_append, List.head?_append]
  cases path.toList with
  | nil =>
    rw [List.head?_nil, Option.none_or]
    exact iff_of_false (fun hhead => h (List.mem_of_head? hhead)) nofun
  | cons c cs => rfl

theorem endsWith_slash_append (h : '/' ∉ suffix.toList) (hempty : suffix ≠ "") :
    (path ++ suffix).endsWith "/" = false := by
  rw [← Bool.not_eq_true, String.endsWith_eq_endsWith_toSlice, String.Slice.endsWith_string_iff,
    String.copy_toSlice, String.toList_append]
  rintro ⟨front, hfront⟩
  have hlast : some '/' = (path.toList ++ suffix.toList).getLast? := by
    rw [← hfront]
    exact List.getLast?_concat.symm
  rw [List.getLast?_append] at hlast
  cases hend : suffix.toList.getLast? with
  | none => exact hempty (String.toList_eq_nil_iff.mp (List.getLast?_eq_none_iff.mp hend))
  | some c =>
    rw [hend] at hlast
    obtain rfl : '/' = c := Option.some.inj hlast
    exact h (List.mem_of_getLast? hend)

/-! ## Folders -/

theorem intercalate_names (path : String) : "/".intercalate (names path) = path :=
  Text.intercalate_parts rfl path

theorem names_slash (h : '/' ∉ name.toList) :
    names (folder ++ "/" ++ name) = names folder ++ [name] := by
  have hslash : (folder ++ "/" ++ name).toList = folder.toList ++ '/' :: name.toList := by
    rw [String.toList_append, String.toList_append, List.append_assoc]
    rfl
  rw [names, hslash, List.splitOn_append_cons_self, List.splitOn_eq_singleton h, List.map_append,
    List.map_singleton, String.ofList_toList]
  rfl

/-- A name that is neither empty nor a dot says something. -/
theorem significant_cons {above : List String} (hempty : name ≠ "") (hdot : name ≠ ".") :
    significant (name :: above) = name :: above := by
  rw [significant, if_neg]
  rintro (h | ⟨h, -⟩)
  · exact hempty (String.isEmpty_iff.mp h)
  · exact hdot h

/-- A name of more than one character says something. -/
theorem significant_cons_of_length {above : List String} (h : 1 < name.length) :
    significant (name :: above) = name :: above := by
  apply significant_cons <;> rintro rfl <;> exact absurd h (by decide)

/-- **The folder of a file** is the one before its name, if that one ends in a name of its own. -/
theorem parent?_slash {init : List String} {last : String} (hfolder : names folder = init ++ [last])
    (hlast : 1 < last.length) (hslash : '/' ∉ name.toList) (hname : 1 < name.length) :
    parent? (folder ++ "/" ++ name) = some folder := by
  have hreverse : (names folder).reverse = last :: init.reverse := by
    rw [hfolder, List.reverse_append]
    rfl
  have habove : significant (names folder).reverse = (names folder).reverse := by
    rw [hreverse, significant_cons_of_length hlast]
  rw [parent?, names_slash hslash, List.reverse_append, List.reverse_singleton,
    List.singleton_append, significant_cons_of_length hname]
  dsimp only
  rw [habove, hreverse]
  dsimp only
  rw [← hreverse, List.reverse_reverse, intercalate_names]

theorem lineageUpTo_subset {few more : Nat} (h : few ≤ more) :
    lineageUpTo few path ⊆ lineageUpTo more path := by
  induction few generalizing more path with
  | zero => exact List.nil_subset _
  | succ few ih =>
    obtain ⟨more, rfl⟩ : ∃ rest, more = rest + 1 := ⟨more - 1, by omega⟩
    rw [lineageUpTo, lineageUpTo]
    refine List.cons_subset_cons _ ?_
    cases parent? path with
    | none => exact List.nil_subset _
    | some folder => exact ih (by omega)

/-- The folders above the folder of a file are above the file. -/
theorem lineage_subset (h : parent? path = some folder) (hlength : folder.length < path.length) :
    lineage folder ⊆ lineage path := by
  have hlineage : lineage path = path :: lineageUpTo path.length folder := by
    rw [lineage, lineageUpTo, h]
    rfl
  rw [hlineage]
  exact List.subset_cons_of_subset _ (lineageUpTo_subset (by omega))

theorem mem_lineage_self : path ∈ lineage path := List.mem_cons_self

end SessionReplay.Disk.Place
