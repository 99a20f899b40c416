import Mathlib.Data.List.Infix
import SessionReplay.Proofs.Disk.Ordinary

/-!
# Well-formed file trees

* `FileTree.WellFormed` — whatever there is stands in a folder;
* `FileTree.Blocked` — a file stands where a name needs a folder, or under the name itself;
* `FileTree.Leads` — where the way along a name leads;
* `WellFormed.leads_walk`: **the way along ordinary names** leads to a folder, against a file, or
  nowhere;
* `WellFormed.locate_cases`, `WellFormed.at?_eq`: what an ordinary place means, and what is there.
-/

namespace SessionReplay.FileTree

open Disk (Fault)
open Disk.Place (Ordinary Rooted Within)

variable {tree : FileTree} {name above : FileName} {path folder last : String}
  {names : List String}

/-! ## Trees of folders -/

/-- Whatever there is stands in a folder, and the working folder is there. -/
structure WellFormed (tree : FileTree) : Prop where
  here : tree.entry? tree.here = some .folder
  folder : ∀ name last, tree.entry? (name ++ [last]) ≠ none → tree.entry? name = some .folder

/-- A file stands under a name, or where one of its folders would be. -/
def Blocked (tree : FileTree) (name : FileName) : Prop :=
  ∃ above content, above <+: name ∧ tree.entry? above = some (.file content)

theorem entry?_ne_none_iff (h : name ≠ []) :
    tree.entry? name ≠ none ↔ ∃ found ∈ tree.entries, found.1 = name := by
  rw [ entry?, if_neg h, ne_eq, List.lookup_eq_none_iff]
  simp only [not_forall, exists_prop, bne_iff_ne, ne_eq, not_not, @eq_comm _ name]

theorem wellFormed_iff_entries : tree.WellFormed ↔ tree.entry? tree.here = some .folder ∧
    ∀ found ∈ tree.entries, found.1 ≠ [] → tree.entry? found.1.dropLast = some .folder := by
  constructor
  · refine fun h => ⟨h.here, fun found hfound hne => h.folder _ (found.1.getLast hne) ?_⟩
    rw [List.dropLast_concat_getLast hne]
    exact (entry?_ne_none_iff hne).mpr ⟨found, hfound, rfl⟩
  · rintro ⟨hhere, hentries⟩
    refine ⟨hhere, fun name last hthere => ?_⟩
    obtain ⟨found, hfound, hsame⟩ := (entry?_ne_none_iff (List.concat_ne_nil _ _)).mp hthere
    have hfolder := hentries found hfound (hsame ▸ List.concat_ne_nil _ _)
    rw [hsame, List.dropLast_concat] at hfolder
    exact hfolder

instance : Decidable tree.WellFormed := decidable_of_iff _ wellFormed_iff_entries.symm

theorem blocked_iff_inits : tree.Blocked name ↔
    ∃ above ∈ name.inits, tree.entry? above ≠ none ∧ tree.entry? above ≠ some .folder := by
  constructor
  · rintro ⟨above, content, hbegins, hfile⟩
    refine ⟨above, (List.mem_inits _ _).mpr hbegins, ?_⟩
    rw [hfile]
    exact ⟨nofun, nofun⟩
  · rintro ⟨above, hinits, hthere, hfile⟩
    cases hentry : tree.entry? above with
    | none => exact absurd hentry hthere
    | some entry =>
      cases entry with
      | folder => exact absurd hentry hfile
      | file content => exact ⟨above, content, (List.mem_inits _ _).mp hinits, hentry⟩

instance : Decidable (tree.Blocked name) := decidable_of_iff _ blocked_iff_inits.symm

theorem blocked_concat_iff : tree.Blocked (name ++ [last]) ↔
    tree.Blocked name ∨ ∃ content, tree.entry? (name ++ [last]) = some (.file content) := by
  constructor
  · rintro ⟨above, content, hbegins, hfile⟩
    rcases List.prefix_concat_iff.mp hbegins with rfl | hbegins
    · exact .inr ⟨content, hfile⟩
    · exact .inl ⟨above, content, hbegins, hfile⟩
  · rintro (⟨above, content, hbegins, hfile⟩ | ⟨content, hfile⟩)
    · exact ⟨above, content, hbegins.trans (List.prefix_append _ _), hfile⟩
    · exact ⟨_, content, List.prefix_rfl, hfile⟩

theorem blocked_of_concat (hnone : tree.entry? (name ++ [last]) = none)
    (h : tree.Blocked (name ++ [last])) : tree.Blocked name := by
  refine (blocked_concat_iff.mp h).resolve_right ?_
  rintro ⟨content, hfile⟩
  rw [hnone] at hfile
  cases hfile

theorem not_prefix_concat (name : FileName) (last : String) : ¬ name ++ [last] <+: name := by
  intro hbegins
  have hlength := hbegins.length_le
  rw [List.length_append, List.length_singleton] at hlength
  omega

namespace WellFormed

/-- What stands before the end of a name that is there is a folder. -/
theorem folder_above (h : tree.WellFormed) (hbegins : above <+: name) (hne : above ≠ name)
    (hname : tree.entry? name ≠ none) : tree.entry? above = some .folder := by
  induction name using List.reverseRecOn with
  | nil => exact absurd (List.prefix_nil.mp hbegins) hne
  | append_singleton name last ih =>
    have hfolder := h.folder name last hname
    by_cases hsame : above = name
    · rw [hsame, hfolder]
    · have habove := (List.prefix_concat_iff.mp hbegins).resolve_left hne
      exact ih habove hsame (by rw [hfolder]; nofun)

theorem not_blocked (h : tree.WellFormed) (hname : tree.entry? name = some .folder) :
    ¬ tree.Blocked name := by
  rintro ⟨above, content, hbegins, hfile⟩
  by_cases hsame : above = name
  · rw [hsame, hname] at hfile
    cases hfile
  · rw [h.folder_above hbegins hsame (by rw [hname]; nofun)] at hfile
    cases hfile

theorem concat_eq_none (h : tree.WellFormed) (hname : tree.entry? name ≠ some .folder) :
    tree.entry? (name ++ [last]) = none := by
  by_contra hthere
  exact hname (h.folder name last hthere)

end WellFormed

/-! ## Ways -/

/-- Where the way along a name leads: to a folder, against a file, or nowhere. -/
inductive Leads (tree : FileTree) (name : FileName) : Except Fault FileName → Prop
  | folder (h : tree.entry? name = some .folder) : Leads tree name (.ok name)
  | blocked (h : tree.Blocked name) : Leads tree name (.error .notFolder)
  | missing (h : tree.entry? name = none) (hfree : ¬ tree.Blocked name) :
    Leads tree name (.error .noEntry)

theorem walk_concat {start : FileName} : tree.walk start (names ++ [last]) =
    tree.walk start names >>= fun found => tree.step found last := by
  rw [walk, List.foldlM_append]
  refine bind_congr fun found => ?_
  rw [List.foldlM_cons]
  exact bind_pure _

theorem foldl_enter {start : FileName} (hdot : "." ∉ names) (hdots : ".." ∉ names) :
    names.foldl enter start = start ++ names := by
  induction names using List.reverseRecOn with
  | nil => exact (List.append_nil start).symm
  | append_singleton names last ih =>
    rw [List.mem_append, not_or, List.mem_singleton] at hdot hdots
    rw [List.foldl_append, ih hdot.1 hdots.1, ← List.append_assoc]
    exact (if_neg (Ne.symm hdot.2)).trans (if_neg (Ne.symm hdots.2))

theorem step_eq {found : FileName} (hdot : last ≠ ".") (hdots : last ≠ "..") :
    tree.step found last =
      match tree.entry? (found ++ [last]) with
      | some .folder => .ok (found ++ [last])
      | some (.file _) => .error .notFolder
      | none => .error .noEntry := by
  unfold step
  exact (if_neg hdot).trans (if_neg hdots)

theorem WellFormed.leads_walk (h : tree.WellFormed) {start : FileName}
    (hstart : tree.entry? start = some .folder) (hdot : "." ∉ names) (hdots : ".." ∉ names) :
    tree.Leads (start ++ names) (tree.walk start names) := by
  induction names using List.reverseRecOn with
  | nil =>
    rw [List.append_nil]
    exact .folder hstart
  | append_singleton names last ih =>
    rw [List.mem_append, not_or, List.mem_singleton] at hdot hdots
    rw [walk_concat, ← List.append_assoc]
    have hleads := ih hdot.1 hdots.1
    generalize tree.walk start names = found at hleads
    cases hleads with
    | folder hfolder =>
      change tree.Leads _ (tree.step (start ++ names) last)
      rw [step_eq (Ne.symm hdot.2) (Ne.symm hdots.2)]
      cases hentry : tree.entry? (start ++ names ++ [last]) with
      | none =>
        exact .missing hentry fun hblocked =>
          h.not_blocked hfolder (blocked_of_concat hentry hblocked)
      | some entry =>
        cases entry with
        | folder => exact .folder hentry
        | file content => exact .blocked (blocked_concat_iff.mpr (.inr ⟨content, hentry⟩))
    | blocked hblocked => exact .blocked (blocked_concat_iff.mpr (.inl hblocked))
    | missing hmissing hfree =>
      have hnone : tree.entry? (start ++ names ++ [last]) = none :=
        h.concat_eq_none (by rw [hmissing]; nofun)
      exact .missing hnone fun hblocked => hfree (blocked_of_concat hnone hblocked)

/-! ## Places -/

theorem dots_notMem_steps (h : Rooted path) : "." ∉ steps path ∧ ".." ∉ steps path := by
  rcases h with rfl | rfl | h
  · exact ⟨nofun, nofun⟩
  · exact ⟨nofun, nofun⟩
  · exact ⟨fun hdot => h.dot (List.mem_filter.mp hdot).1,
      fun hdots => h.dots (List.mem_filter.mp hdots).1⟩

theorem base_of_within (h : Within folder last path) : tree.base path = tree.base folder := by
  rw [base, base, h.isAbsolute]

theorem nameOf_of_within (h : Within folder last path) :
    tree.nameOf path = tree.nameOf folder ++ [last] := by
  rw [nameOf, h.steps, List.foldl_append, base_of_within h]
  exact (if_neg h.dot).trans (if_neg h.dots)

theorem locate_of_within (h : Within folder last path) : tree.locate path =
    (tree.walk (tree.base folder) (steps folder)).map
      fun found => .entry (found ++ [last]) false := by
  have hpath : ¬ path.isEmpty = true := by
    rw [String.isEmpty_iff]
    rintro rfl
    exact absurd h.length (Nat.not_lt_zero _)
  have hsteps : (Disk.Place.names path).filter (fun name => !name.isEmpty) =
      steps folder ++ [last] := h.steps
  have hbase : (if Disk.Place.isAbsolute path then [] else tree.here) = tree.base folder :=
    base_of_within h
  unfold locate
  rw [if_neg hpath]
  dsimp only
  rw [hbase, hsteps, List.dropLast_concat, List.getLast?_concat, h.ended]
  cases tree.walk (tree.base folder) (steps folder) with
  | error fault => rfl
  | ok found => exact if_neg (not_or.mpr ⟨h.dot, h.dots⟩)

namespace WellFormed

theorem base_folder (h : tree.WellFormed) (path : String) :
    tree.entry? (tree.base path) = some .folder := by
  unfold base
  split_ifs
  · rfl
  · exact h.here

/-- **What an ordinary place means**: a name in a folder that is there, or a fault. -/
theorem locate_cases (h : tree.WellFormed) (hwithin : Within folder last path) :
    (tree.entry? (tree.nameOf folder) = some .folder ∧
      tree.locate path = .ok (.entry (tree.nameOf path) false)) ∨
    (tree.Blocked (tree.nameOf folder) ∧ tree.locate path = .error .notFolder) ∨
    (tree.entry? (tree.nameOf folder) = none ∧ ¬ tree.Blocked (tree.nameOf folder) ∧
      tree.locate path = .error .noEntry) := by
  obtain ⟨hdot, hdots⟩ := dots_notMem_steps hwithin.rooted
  have hleads := h.leads_walk (h.base_folder folder) hdot hdots
  rw [locate_of_within hwithin, nameOf_of_within hwithin, nameOf, foldl_enter hdot hdots]
  generalize tree.walk (tree.base folder) (steps folder) = found at hleads
  cases hleads with
  | folder hthere => exact .inl ⟨hthere, rfl⟩
  | blocked hblocked => exact .inr (.inl ⟨hblocked, rfl⟩)
  | missing hmissing hfree => exact .inr (.inr ⟨hmissing, hfree, rfl⟩)

theorem locate_of_folder (h : tree.WellFormed) (hwithin : Within folder last path)
    (hthere : tree.entry? (tree.nameOf folder) = some .folder) :
    tree.locate path = .ok (.entry (tree.nameOf path) false) := by
  rcases h.locate_cases hwithin with ⟨-, hlocate⟩ | ⟨hblocked, -⟩ | ⟨hmissing, -⟩
  · exact hlocate
  · exact absurd hblocked (h.not_blocked hthere)
  · rw [hmissing] at hthere
    cases hthere

/-- What is at an ordinary place is what stands under its name. -/
theorem at?_eq (h : tree.WellFormed) (hpath : Ordinary path) :
    tree.at? path = tree.entry? (tree.nameOf path) := by
  obtain ⟨folder, last, hwithin⟩ := hpath.exists_within
  have hname : tree.nameOf path = tree.nameOf folder ++ [last] := nameOf_of_within hwithin
  rcases h.locate_cases hwithin with ⟨-, hlocate⟩ | ⟨hblocked, hlocate⟩ |
    ⟨hmissing, -, hlocate⟩
  · rw [at?_of_entry hlocate]
    cases tree.entry? (tree.nameOf path) <;> rfl
  · rw [at?_of_error hlocate, hname,
      h.concat_eq_none fun hthere => h.not_blocked hthere hblocked]
  · rw [at?_of_error hlocate, hname, h.concat_eq_none (by rw [hmissing]; nofun)]

end WellFormed

end SessionReplay.FileTree
