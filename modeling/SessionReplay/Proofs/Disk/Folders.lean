import SessionReplay.Proofs.Disk.Calm
import SessionReplay.Proofs.Disk.WellFormed

/-!
# New folders and files

* `FileTree.FoldersTo` — a tree with all folders on the way to a name;
* `run_createFoldersFrom_of_ok`, `run_createFoldersFrom_of_error`,
  `run_createFoldersFrom_of_noEntry`: one step of creating a folder and those above it;
* `FileTree.FolderOutcome` — what comes of it all;
* **`folderOutcome`**: the folders are there behind it, or a file stands in the way and nothing
  changes;
* `FileTree.FileAdded` — a tree with one more file and the folders on the way to it;
* `FoldersTo.createFile`: a file is written where its folders have been created;
* **`WellFormed.blocked_iff`**: a file stands in the way just where no file can be added.
-/

namespace SessionReplay.FileTree

open Disk (Fault)
open Disk.Place (Ordinary Rooted Within)

variable {α β : Type} {tree after : FileTree} {name above : FileName} {path folder last : String}

/-! ## New folders -/

/-- A tree with all folders on the way to a name, and the name as one. No file stood there, and all
else is as before. -/
structure FoldersTo (tree : FileTree) (name : FileName) (after : FileTree) : Prop where
  here : after.here = tree.here
  free : ¬ tree.Blocked name
  there : ∀ above, above <+: name → after.entry? above = some .folder
  other : ∀ other, ¬ other <+: name → after.entry? other = tree.entry? other

namespace FoldersTo

theorem refl (h : tree.WellFormed) (hname : tree.entry? name = some .folder) :
    FoldersTo tree name tree := by
  refine ⟨rfl, h.not_blocked hname, fun above habove => ?_, fun _ _ => rfl⟩
  by_cases hsame : above = name
  · rw [hsame, hname]
  · exact h.folder_above habove hsame (by rw [hname]; nofun)

theorem wellFormed (h : FoldersTo tree name after) (hw : tree.WellFormed) : after.WellFormed where
  here := by
    by_cases hbegins : after.here <+: name
    · exact h.there _ hbegins
    · rw [h.other _ hbegins, h.here]
      exact hw.here
  folder above last hthere := by
    by_cases habove : above <+: name
    · exact h.there above habove
    · have hlast : ¬ above ++ [last] <+: name := fun hbegins =>
        habove ((List.prefix_append _ _).trans hbegins)
      rw [h.other _ hlast] at hthere
      rw [h.other _ habove]
      exact hw.folder above last hthere

theorem put (h : FoldersTo tree name after) (hnone : tree.entry? (name ++ [last]) = none) :
    FoldersTo tree (name ++ [last]) (after.put (name ++ [last]) .folder) := by
  refine ⟨h.here, fun hblocked => ?_, fun above habove => ?_, fun other hother => ?_⟩
  · exact h.free (blocked_of_concat hnone hblocked)
  · by_cases hsame : above = name ++ [last]
    · rw [hsame, entry?_put_self (List.concat_ne_nil _ _)]
    · rw [entry?_put_of_ne hsame]
      exact h.there above ((List.prefix_concat_iff.mp habove).resolve_left hsame)
  · obtain ⟨hsame, hbegins⟩ := not_or.mp (mt List.prefix_concat_iff.mpr hother)
    rw [entry?_put_of_ne hsame]
    exact h.other other hbegins

/-- New folders leave what is below them as it was. -/
theorem entry?_concat (h : FoldersTo tree name after) :
    after.entry? (name ++ [last]) = tree.entry? (name ++ [last]) :=
  h.other _ (not_prefix_concat name last)

/-- A place in a folder that is there now means a name in it. -/
theorem locate (h : FoldersTo tree (tree.nameOf folder) after) (hw : tree.WellFormed)
    (hwithin : Within folder last path) :
    after.locate path = .ok (.entry (tree.nameOf folder ++ [last]) false) := by
  have hname : after.nameOf folder = tree.nameOf folder := nameOf_congr h.here
  rw [(h.wellFormed hw).locate_of_folder hwithin
    (hname ▸ h.there _ List.prefix_rfl), nameOf_of_within hwithin, hname]

end FoldersTo

/-! ## Creating folders -/

/-- Steps on a tree: what they give, and the tree behind them. -/
def run (x : StateM FileTree α) (tree : FileTree) : α × FileTree := StateT.run x tree

theorem run_bind (x : StateM FileTree α) (f : α → StateM FileTree β) (tree : FileTree) :
    run (x >>= f) tree = run (f (run x tree).1) (run x tree).2 := rfl

theorem run_isFolder (path : String) (tree : FileTree) :
    run (Disk.isFolder path) tree = (decide (tree.at? path = some .folder), tree) := rfl

theorem run_createFolder (path : String) (tree : FileTree) :
    run (Disk.createFolder path) tree =
      match tree.createFolder path with
      | .ok after => (.ok (), after)
      | .error fault => (.error fault, tree) :=
  FaultyTree.run_fileAttempt _ tree

theorem createFolder_of_error {fault : Fault} (h : tree.locate path = .error fault) :
    tree.createFolder path = .error fault := by
  rw [createFolder, h]
  rfl

theorem createFolder_of_folder (h : tree.locate path = .ok (.folder name)) :
    tree.createFolder path = .error .taken := by
  rw [createFolder, h]
  rfl

theorem createFolder_of_entry {slash : Bool} (h : tree.locate path = .ok (.entry name slash)) :
    tree.createFolder path =
      if (tree.entry? name).isSome then .error .taken else .ok (tree.put name .folder) := by
  rw [createFolder, h]
  rfl

/-- A folder that can be created needs no other one. -/
theorem run_createFoldersFrom_of_ok {places : List String} (hpath : path ≠ "")
    (h : tree.createFolder path = .ok after) :
    run (Disk.createFoldersFrom (path :: places)) tree = (.ok (), after) := by
  rw [Disk.createFoldersFrom, if_neg (mt String.isEmpty_iff.mp hpath), run_bind, run_createFolder,
    h]
  rfl

/-- A folder that cannot be created may be there already. -/
theorem run_createFoldersFrom_of_error {places : List String} {fault : Fault} (hpath : path ≠ "")
    (h : tree.createFolder path = .error fault) (hfault : fault ≠ .noEntry) :
    run (Disk.createFoldersFrom (path :: places)) tree =
      (if tree.at? path = some .folder then .ok () else .error fault, tree) := by
  rw [Disk.createFoldersFrom, if_neg (mt String.isEmpty_iff.mp hpath), run_bind, run_createFolder,
    h]
  have hunless : run (do return if ← Disk.isFolder path then
      (Except.ok () : Except Fault Unit) else .error fault) tree =
        (if tree.at? path = some .folder then .ok () else .error fault, tree) := by
    rw [run_bind, run_isFolder]
    by_cases hthere : tree.at? path = some .folder
    · rw [decide_eq_true hthere, if_pos hthere]
      rfl
    · rw [decide_eq_false hthere, if_neg hthere]
      rfl
  cases fault with
  | noEntry => exact absurd rfl hfault
  | _ => exact hunless

/-- A folder whose own folder is missing is created behind that one. -/
theorem run_createFoldersFrom_of_noEntry {places : List String} {middle : FileTree}
    (hpath : path ≠ "") (h : tree.createFolder path = .error .noEntry)
    (habove : run (Disk.createFoldersFrom places) tree = (.ok (), middle))
    (hmiddle : middle.createFolder path = .ok after) :
    run (Disk.createFoldersFrom (path :: places)) tree = (.ok (), after) := by
  have hlast : run (Disk.createFolderUnlessThere path) middle = (.ok (), after) := by
    rw [Disk.createFolderUnlessThere, run_bind, run_createFolder, hmiddle]
    rfl
  rw [Disk.createFoldersFrom, if_neg (mt String.isEmpty_iff.mp hpath), run_bind, run_createFolder,
    h]
  dsimp only
  rw [run_bind, habove]
  exact hlast

/-- What comes of creating a folder and those above it: they are there, or a file stands in the way
and nothing changes. -/
inductive FolderOutcome (tree : FileTree) (name : FileName) :
    Except Fault Unit × FileTree → Prop
  | created {after : FileTree} (h : FoldersTo tree name after) :
    FolderOutcome tree name (.ok (), after)
  | blocked {fault : Fault} (h : tree.Blocked name) : FolderOutcome tree name (.error fault, tree)

/-- A place in a folder of which the outcome is known. -/
theorem folderOutcome_cons {places : List String} (h : tree.WellFormed) (hpath : Ordinary path)
    (hwithin : Within folder last path)
    (habove : FolderOutcome tree (tree.nameOf folder) (run (Disk.createFoldersFrom places) tree)) :
    FolderOutcome tree (tree.nameOf path) (run (Disk.createFoldersFrom (path :: places)) tree) := by
  have hat := h.at?_eq hpath
  have hname : tree.nameOf path = tree.nameOf folder ++ [last] := nameOf_of_within hwithin
  rcases h.locate_cases hwithin with ⟨hthere, hlocate⟩ | ⟨hblocked, hlocate⟩ |
    ⟨hmissing, hfree, hlocate⟩
  · have hcreate := createFolder_of_entry hlocate
    cases hentry : tree.entry? (tree.nameOf path) with
    | none =>
      rw [hentry] at hcreate
      rw [run_createFoldersFrom_of_ok hpath.ne_empty hcreate]
      rw [hname] at hentry ⊢
      exact .created ((FoldersTo.refl h hthere).put hentry)
    | some entry =>
      rw [hentry] at hcreate hat
      rw [run_createFoldersFrom_of_error hpath.ne_empty hcreate nofun, hat]
      cases entry with
      | folder => exact .created (.refl h hentry)
      | file content => exact .blocked ⟨_, content, List.prefix_rfl, hentry⟩
  · have hnone : tree.entry? (tree.nameOf path) = none :=
      hname ▸ h.concat_eq_none fun hthere => h.not_blocked hthere hblocked
    rw [run_createFoldersFrom_of_error hpath.ne_empty (createFolder_of_error hlocate) nofun, hat,
      hnone, hname]
    exact .blocked (blocked_concat_iff.mpr (.inl hblocked))
  · have hnone : tree.entry? (tree.nameOf folder ++ [last]) = none :=
      h.concat_eq_none (by rw [hmissing]; nofun)
    generalize hrun : run (Disk.createFoldersFrom places) tree = reached at habove
    cases habove with
    | blocked hblocked => exact absurd hblocked hfree
    | @created middle hmade =>
      have hcreate := createFolder_of_entry (hmade.locate h hwithin)
      rw [hmade.entry?_concat, hnone] at hcreate
      rw [run_createFoldersFrom_of_noEntry hpath.ne_empty (createFolder_of_error hlocate) hrun
        hcreate, hname]
      exact .created (hmade.put hnone)

/-- The induction is on the number of folders that are looked at; each of them is shorter than the
place below it. -/
theorem folderOutcome_lineageUpTo {few : Nat} (h : tree.WellFormed) (hpath : Rooted path)
    (hlength : path.length < few) : FolderOutcome tree (tree.nameOf path)
      (run (Disk.createFoldersFrom (Disk.Place.lineageUpTo few path)) tree) := by
  induction few generalizing path with
  | zero => exact absurd hlength (Nat.not_lt_zero _)
  | succ few ih =>
    rw [Disk.Place.lineageUpTo]
    rcases hpath with rfl | rfl | hpath
    · exact .created (.refl h (h.base_folder ""))
    · have hlocate : tree.locate "/" = .ok (.folder (tree.base "/")) :=
        locate_eq_ok_iff.mpr ⟨by decide, _, rfl, rfl⟩
      rw [run_createFoldersFrom_of_error (by decide) (createFolder_of_folder hlocate) (by decide),
        at?_of_folder hlocate, if_pos rfl]
      exact .created (.refl h (h.base_folder "/"))
    · obtain ⟨folder, last, hwithin⟩ := hpath.exists_within
      rw [hwithin.parent, Option.elim_some]
      exact folderOutcome_cons h hpath hwithin
        (ih hwithin.rooted (Nat.lt_of_lt_of_le hwithin.length (Nat.le_of_lt_succ hlength)))

/-- **Folders are created unless a file stands in the way.** -/
theorem folderOutcome (h : tree.WellFormed) (hpath : Rooted path) :
    FolderOutcome tree (tree.nameOf path) (run (Disk.createFolders path) tree) :=
  folderOutcome_lineageUpTo h hpath (Nat.lt_succ_self _)

/-! ## A new file -/

/-- A tree with one more file, and with the folders that were missing on the way to it. All that was
there is as before, and nothing else is new. -/
structure FileAdded (tree : FileTree) (name : FileName) (content : List UInt8) (after : FileTree) :
    Prop where
  here : after.here = tree.here
  file : after.entry? name = some (.file content)
  folders : ∀ above, above <+: name → above ≠ name → after.entry? above = some .folder
  kept : ∀ other entry, tree.entry? other = some entry → after.entry? other = some entry
  other : ∀ other, ¬ other <+: name → after.entry? other = tree.entry? other

theorem FileAdded.wellFormed {content : List UInt8} (h : FileAdded tree name content after)
    (hw : tree.WellFormed) : after.WellFormed where
  here := h.here ▸ h.kept _ _ hw.here
  folder above last hthere := by
    by_cases hbegins : above ++ [last] <+: name
    · refine h.folders above ((List.prefix_append _ _).trans hbegins) ?_
      rintro rfl
      exact not_prefix_concat above last hbegins
    · rw [h.other _ hbegins] at hthere
      exact h.kept _ _ (hw.folder above last hthere)

/-- No file is added where one stands in the way. -/
theorem FileAdded.not_blocked {content : List UInt8} (h : FileAdded tree name content after)
    (hnone : tree.entry? name = none) : ¬ tree.Blocked name := by
  rintro ⟨above, found, habove, hfile⟩
  have hne : above ≠ name := by
    rintro rfl
    rw [hnone] at hfile
    cases hfile
  have hfolder := h.folders above habove hne
  rw [h.kept _ _ hfile] at hfolder
  cases hfolder

/-- A file in a folder that is there now. -/
theorem FoldersTo.fileAdded (h : FoldersTo tree name after)
    (hnone : tree.entry? (name ++ [last]) = none) (first content : List UInt8) :
    FileAdded tree (name ++ [last]) content
      ((after.put (name ++ [last]) (.file first)).put (name ++ [last]) (.file content)) := by
  have hput : ∀ other, other ≠ name ++ [last] → FileTree.entry? ((after.put (name ++ [last])
      (.file first)).put (name ++ [last]) (.file content)) other = after.entry? other :=
    fun other hne => by rw [entry?_put_of_ne hne, entry?_put_of_ne hne]
  refine ⟨h.here, entry?_put_self (List.concat_ne_nil _ _), fun above habove hne => ?_,
    fun other entry hentry => ?_, fun other hother => ?_⟩
  · rw [hput above hne]
    exact h.there above ((List.prefix_concat_iff.mp habove).resolve_left hne)
  · have hne : other ≠ name ++ [last] := by
      rintro rfl
      rw [hnone] at hentry
      cases hentry
    rw [hput other hne]
    by_cases hbegins : other <+: name
    · rw [h.there other hbegins]
      cases entry with
      | folder => rfl
      | file found => exact absurd ⟨other, found, hbegins, hentry⟩ h.free
    · rw [h.other other hbegins, hentry]
  · obtain ⟨hne, hbegins⟩ := not_or.mp (mt List.prefix_concat_iff.mpr hother)
    rw [hput other hne, h.other other hbegins]

/-- **A file is written** where its folders have been created. -/
theorem FoldersTo.createFile (h : FoldersTo tree (tree.nameOf folder) after) (hw : tree.WellFormed)
    (hwithin : Within folder last path)
    (hnone : tree.entry? (tree.nameOf path) = none) (content : List UInt8) :
    ∃ empty full, after.createFile path = .ok empty ∧ empty.append path content = .ok full ∧
      FileAdded tree (tree.nameOf path) content full := by
  have hname : after.nameOf path = tree.nameOf folder ++ [last] := by
    rw [nameOf_congr h.here, nameOf_of_within hwithin]
  rw [nameOf_of_within hwithin] at hnone ⊢
  have hwritable : after.Writable path := by
    refine ⟨?_, ?_⟩
    · rw [hname]
      exact h.locate hw hwithin
    · rw [hname, h.entry?_concat, hnone]
      nofun
  have hempty := (writable_of_at? (hwritable.at?_put [])).2
  refine ⟨_, _, hwritable.createFile, ?_, h.fileAdded hnone [] content⟩
  rw [append, hempty, nameOf_congr (show (after.put _ _).here = after.here from rfl), hname]
  rfl

/-- **A file stands in the way** of an ordinary place just where no file can be added. -/
theorem WellFormed.blocked_iff (h : tree.WellFormed) (hpath : Ordinary path)
    (hnone : tree.at? path = none) : tree.Blocked (tree.nameOf path) ↔
      ∀ content after, ¬ FileAdded tree (tree.nameOf path) content after := by
  rw [h.at?_eq hpath] at hnone
  refine ⟨fun hblocked content after hadded => hadded.not_blocked hnone hblocked, fun hnever => ?_⟩
  obtain ⟨folder, last, hwithin⟩ := hpath.exists_within
  have houtcome := folderOutcome h hwithin.rooted
  generalize run (Disk.createFolders folder) tree = reached at houtcome
  cases houtcome with
  | created hmade =>
    obtain ⟨_, full, -, -, hadded⟩ := hmade.createFile h hwithin hnone []
    exact absurd hadded (hnever [] full)
  | blocked hblocked =>
    rw [nameOf_of_within hwithin]
    exact blocked_concat_iff.mpr (.inl hblocked)

end SessionReplay.FileTree
