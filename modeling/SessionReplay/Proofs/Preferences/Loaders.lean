import SessionReplay.Proofs.Disk.Folders
import SessionReplay.Proofs.Preferences.Fallback
import SessionReplay.Proofs.Program.Calm

/-!
# Two loaders of preferences

* `FileTree.perform` — steps that may stop, on a tree;
* `createFile_of_calm`: without faults, a file of the defaults is created, unless a file stands in
  the way;
* `perform_loaders_of_some`, `perform_loaders_of_none`: both loaders on one tree;
* **`loaders_agree`**: they agree, and change nothing that is there.
-/

namespace SessionReplay

/-- Steps that may stop, on a tree. -/
def FileTree.perform {α : Type} (x : Attempt (StateM FileTree) α) (tree : FileTree) :
    Except Problem α × FileTree :=
  run x.run tree

/-- What happens on a faulty tree without faults happens on the tree. -/
theorem FaultyTree.Agrees.perform_eq {α : Type} {x : Attempt (StateM FaultyTree) α}
    {y : Attempt (StateM FileTree) α} {tree : FileTree} {result : Except Problem α}
    {after : FaultyTree} (h : Agrees x.run y.run)
    (hx : perform x (start tree []) = (result, after)) :
    FileTree.perform y tree = (result, after.tree) := by
  have hrun := (h (start tree []) rfl).1
  change FaultyTree.run x.run (start tree []) = _ at hx
  rw [hx] at hrun
  exact hrun.symm

namespace Preferences

open Disk.Place (Ordinary)
open FileTree (FileAdded)
open FaultyTree (Agrees)

variable {path : String} {entry : FileEntry} {tree : FileTree} {s : FaultyTree}

/-! ## The defaults -/

/-- The file of the defaults writes the defaults. -/
theorem read_defaultText : read defaultText = .ok {} :=
  toOption_eq_some_iff.mp (by decide +kernel)

/-- A file of a text is read as the text is. -/
theorem ReadsAs.eq_read {text : String} {result : Except Problem Preferences}
    (h : ReadsAs path (.file (Text.bytes text)) result) :
    result = (read text).mapError (.preferences path) := by
  have htext := Text.ofBytes?_bytes text
  cases h with
  | notText hbytes => cases hbytes.symm.trans htext
  | malformed hbytes hnone hread =>
    cases hbytes.symm.trans htext
    rw [hread]
    rfl
  | preferences hbytes hdocument =>
    cases hbytes.symm.trans htext
    rw [read_eq_ok_iff.mpr hdocument]
    rfl

theorem ReadsAs.eq_default {result : Except Problem Preferences}
    (h : ReadsAs path (.file (Text.bytes defaultText)) result) : result = .ok {} := by
  rw [h.eq_read, read_defaultText]
  rfl

/-! ## Creating -/

/-- Without faults, the defaults are written where the folders are there now. -/
theorem writeDefaults_of_calm {content : List UInt8} {created written : FileTree}
    (hs : s.fates = []) (hcreate : s.tree.createFile path = .ok created)
    (happend : created.append path content = .ok written) : ∃ after,
      FaultyTree.perform (Attempt.file (.write path) (Disk.createFile path) >>= fun _ =>
        Attempt.file (.write path) (Disk.append path content)) s = (.ok (), after) ∧
      after.tree = written := by
  have hfirst : FaultyTree.run (Disk.createFile path) s = (.ok (), s.passed.moved created) :=
    FaultyTree.run_attempt_of_ok hs hcreate
  have hsecond : FaultyTree.run (Disk.append path content) (s.passed.moved created) =
      (.ok (), (s.passed.moved created).passed.moved written) := by
    have hcalm : (s.passed.moved created).fates = [] := FaultyTree.fates_passed hs
    change FaultyTree.run (FaultyTree.append path content) (s.passed.moved created) = _
    rw [FaultyTree.run_append_of_calm hcalm]
    exact FaultyTree.run_change_of_ok (s := (s.passed.moved created).passed) happend
  rw [FaultyTree.perform_bind, FaultyTree.perform_file, hfirst]
  dsimp only [Except.mapError]
  rw [FaultyTree.perform_file, hsecond]
  exact ⟨_, rfl, rfl⟩

/-- Without faults, a file of the defaults is created, unless a file stands in the way. -/
theorem createFile_of_calm (hs : s.fates = []) (h : s.tree.WellFormed) (hpath : Ordinary path)
    (hnone : s.tree.at? path = none) :
    (¬ s.tree.Blocked (s.tree.nameOf path) ∧ ∃ after,
      FaultyTree.perform (createFile path) s = (.ok (), after) ∧
        FileAdded s.tree (s.tree.nameOf path) (Text.bytes defaultText) after.tree) ∨
    (s.tree.Blocked (s.tree.nameOf path) ∧ ∃ problem after,
      FaultyTree.perform (createFile path) s = (.error problem, after) ∧ after.tree = s.tree) := by
  obtain ⟨folder, last, hwithin⟩ := hpath.exists_within
  rw [h.at?_eq hpath] at hnone
  obtain ⟨hrun, hfates⟩ := Agrees.createFolders folder s hs
  have houtcome : s.tree.FolderOutcome (s.tree.nameOf folder)
      ((FaultyTree.run (Disk.createFolders folder) s).1,
        (FaultyTree.run (Disk.createFolders folder) s).2.tree) := by
    rw [hrun]
    exact FileTree.folderOutcome h hwithin.rooted
  rw [createFile, hwithin.parent]
  dsimp only
  rw [FaultyTree.perform_bind, FaultyTree.perform_file]
  generalize FaultyTree.run (Disk.createFolders folder) s = reached at hfates houtcome
  obtain ⟨result, middle, fates, past⟩ := reached
  cases houtcome with
  | created hmade =>
    obtain ⟨created, written, hcreate, happend, hadded⟩ :=
      hmade.createFile h hwithin hnone (Text.bytes defaultText)
    obtain ⟨after, hperform, rfl⟩ :=
      writeDefaults_of_calm (s := ⟨middle, fates, past⟩) hfates hcreate happend
    exact .inl ⟨hadded.not_blocked hnone, after, hperform, hadded⟩
  | blocked hblocked =>
    refine .inr ⟨?_, _, _, rfl, rfl⟩
    rw [FileTree.nameOf_of_within hwithin]
    exact FileTree.blocked_concat_iff.mpr (.inl hblocked)

/-! ## Loading -/

theorem loadAt_of_some (h : s.tree.at? path = some entry) :
    FaultyTree.perform (loadAt path) s = FaultyTree.perform (readFile path) s := by
  rw [loadAt, FaultyTree.perform_bind, perform_isThere, h]
  rfl

/-- **What is there is read by both loaders**, and nothing changes. -/
theorem perform_loaders_of_some (h : tree.at? path = some entry) : ∃ result,
    ReadsAs path entry result ∧ FileTree.perform (loadAt path) tree = (result, tree) ∧
      FileTree.perform (loadOrDefaultAt path) tree = (result, tree) := by
  let s := FaultyTree.start tree []
  obtain ⟨result, hreads, hperform⟩ := readsAs_readFile (s := s) rfl h
  have hload : FaultyTree.perform (loadAt path) s = (result, s.passed) :=
    (loadAt_of_some (s := s) h).trans hperform
  have hdefault : FaultyTree.perform (loadOrDefaultAt path) s = (result, s.passed) :=
    (loadOrDefaultAt_of_some (s := s) h).trans hperform
  exact ⟨result, hreads, Program.agrees_loadAt.perform_eq hload,
    Program.agrees_loadOrDefaultAt.perform_eq hdefault⟩

theorem perform_loaders_again {after : FileTree} (hw : tree.WellFormed)
    (hpath : Ordinary path)
    (h : FileAdded tree (tree.nameOf path) (Text.bytes defaultText) after) :
    FileTree.perform (loadAt path) after = (.ok {}, after) ∧
      FileTree.perform (loadOrDefaultAt path) after = (.ok {}, after) := by
  have hat : after.at? path = some (.file (Text.bytes defaultText)) := by
    rw [(h.wellFormed hw).at?_eq hpath, FileTree.nameOf_congr h.here, h.file]
  obtain ⟨result, hreads, hload, hdefault⟩ := perform_loaders_of_some hat
  obtain rfl := hreads.eq_default
  exact ⟨hload, hdefault⟩

/-- Where there is nothing, both loaders create a file of the defaults, or one of them fails. -/
theorem perform_loaders_of_none (hw : tree.WellFormed) (hpath : Ordinary path)
    (hnone : tree.at? path = none) :
    (¬ tree.Blocked (tree.nameOf path) ∧ ∃ after,
      FileAdded tree (tree.nameOf path) (Text.bytes defaultText) after ∧
      FileTree.perform (loadAt path) tree = (.ok {}, after) ∧
      FileTree.perform (loadOrDefaultAt path) tree = (.ok {}, after)) ∨
    (tree.Blocked (tree.nameOf path) ∧
      (∃ problem, FileTree.perform (loadAt path) tree = (.error problem, tree)) ∧
      FileTree.perform (loadOrDefaultAt path) tree = (.ok {}, tree)) := by
  let s := FaultyTree.start tree []
  have hload := perform_loadAt_of_none (s := s) hnone
  have hdefault := loadOrDefaultAt_of_none (s := s) hnone
  rcases createFile_of_calm (s := s) rfl hw hpath hnone with
    ⟨hfree, after, hcreate, hadded⟩ | ⟨hblocked, problem, after, hcreate, hsame⟩
  · rw [hcreate] at hload hdefault
    exact .inl ⟨hfree, after.tree, hadded, Program.agrees_loadAt.perform_eq hload,
      Program.agrees_loadOrDefaultAt.perform_eq hdefault⟩
  · rw [hcreate] at hload hdefault
    have hload' := Program.agrees_loadAt.perform_eq hload
    have hdefault' := Program.agrees_loadOrDefaultAt.perform_eq hdefault
    rw [hsame] at hload' hdefault'
    exact .inr ⟨hblocked, ⟨problem, hload'⟩, hdefault'⟩

/-- **The two loaders agree, and neither changes what is there.** What is there is read as what it
is: preferences come of it if it is a file of a text that writes them, and else a problem. Where
there is nothing, a file of the defaults is created together with its folders, and is read from then
on. If a file stands in the way, only one of the loaders reports it, and nothing changes. -/
theorem loaders_agree (hw : tree.WellFormed) (hpath : Ordinary path) :
    (∀ entry, tree.at? path = some entry → ∃ result, ReadsAs path entry result ∧
      (∀ prefs, result = .ok prefs ↔ ∃ content text,
        entry = .file content ∧ Text.ofBytes? content = some text ∧ IsDocument text prefs) ∧
      FileTree.perform (loadAt path) tree = (result, tree) ∧
      FileTree.perform (loadOrDefaultAt path) tree = (result, tree)) ∧
    (tree.at? path = none → ¬ tree.Blocked (tree.nameOf path) → ∃ after,
      FileAdded tree (tree.nameOf path) (Text.bytes defaultText) after ∧
      FileTree.perform (loadAt path) tree = (.ok {}, after) ∧
      FileTree.perform (loadOrDefaultAt path) tree = (.ok {}, after) ∧
      FileTree.perform (loadAt path) after = (.ok {}, after) ∧
      FileTree.perform (loadOrDefaultAt path) after = (.ok {}, after)) ∧
    (tree.at? path = none → tree.Blocked (tree.nameOf path) →
      (∃ problem, FileTree.perform (loadAt path) tree = (.error problem, tree)) ∧
      FileTree.perform (loadOrDefaultAt path) tree = (.ok {}, tree)) := by
  refine ⟨fun entry hthere => ?_, fun hnone hfree => ?_, fun hnone hblocked => ?_⟩
  · obtain ⟨result, hreads, hperform⟩ := perform_loaders_of_some hthere
    exact ⟨result, hreads, fun _ => hreads.eq_ok_iff, hperform⟩
  · rcases perform_loaders_of_none hw hpath hnone with
      ⟨-, after, hadded, hload, hdefault⟩ | ⟨hblocked, -⟩
    · exact ⟨after, hadded, hload, hdefault, perform_loaders_again hw hpath hadded⟩
    · exact absurd hblocked hfree
  · rcases perform_loaders_of_none hw hpath hnone with ⟨hfree, -⟩ | ⟨-, hfails⟩
    · exact absurd hblocked hfree
    · exact hfails

/-- A missing folder is created, a file that stands for a folder is in the way, and neither a folder
nor bytes that are no text are a settings file. A settings file is read, unless a value is of
another kind than its key wants. -/
theorem loaders_agree_nested :
    let custom := "# mine\nskip = ['ads.com']\nspeed = 3\nenable_status_code_checks = true\n" ++
      "batch_threshold_ms = 250\noutput = \"load.js\"\n"
    let mistyped := "output = \"load.js\"\nbatch_threshold_ms = \"soon\"\n"
    let tree : FileTree :=
      ⟨[(["blocker"], .file []), (["folder"], .folder), (["bytes.toml"], .file [255]),
        (["custom.toml"], .file (Text.bytes custom)),
        (["mistyped.toml"], .file (Text.bytes mistyped))], []⟩
    (∃ after, FileAdded tree ["nested", "config.toml"] (Text.bytes defaultText) after ∧
      FileTree.perform (loadAt "nested/config.toml") tree = (.ok {}, after) ∧
      FileTree.perform (loadOrDefaultAt "nested/config.toml") after = (.ok {}, after)) ∧
    (∃ problem, FileTree.perform (loadAt "blocker/config.toml") tree = (.error problem, tree)) ∧
    FileTree.perform (loadOrDefaultAt "blocker/config.toml") tree = (.ok {}, tree) ∧
    FileTree.perform (loadOrDefaultAt "folder") tree =
      (.error (.file (.read "folder") .isFolder), tree) ∧
    FileTree.perform (loadOrDefaultAt "bytes.toml") tree =
      (.error (.file (.read "bytes.toml") .notText), tree) ∧
    FileTree.perform (loadAt "custom.toml") tree =
      (.ok ⟨"load.js", 250, true, false, [], ["ads.com"]⟩, tree) ∧
    ∃ fault, Fault.message fault = "invalid type: string \"soon\", expected i64" ∧
      FileTree.perform (loadOrDefaultAt "mistyped.toml") tree =
        (.error (.preferences "mistyped.toml" fault), tree) := by
  intro custom mistyped tree
  have hw : tree.WellFormed := by decide +kernel
  have hordinary : ∀ path ∈ ["nested/config.toml", "blocker/config.toml", "folder", "bytes.toml",
      "custom.toml", "mistyped.toml"], Ordinary path := by decide +kernel
  simp only [List.forall_mem_cons] at hordinary
  obtain ⟨hnested, hblocker, hfolder, hbytes, hcustom, hmistyped, -⟩ := hordinary
  obtain ⟨-, hcreated, -⟩ := loaders_agree hw hnested
  obtain ⟨-, -, hblocked⟩ := loaders_agree hw hblocker
  obtain ⟨after, hadded, hload, -, -, hagain⟩ := hcreated (by decide +kernel) (by decide +kernel)
  obtain ⟨hfails, hdefault⟩ := hblocked (by decide +kernel) (by decide +kernel)
  have hname : tree.nameOf "nested/config.toml" = ["nested", "config.toml"] := by decide +kernel
  refine ⟨⟨after, hname ▸ hadded, hload, hagain⟩, hfails, hdefault, ?_, ?_, ?_, ?_⟩
  · obtain ⟨result, hreads, -, -, hread⟩ := (loaders_agree hw hfolder).1 .folder (by decide +kernel)
    cases hreads
    exact hread
  · obtain ⟨result, hreads, -, -, hread⟩ :=
      (loaders_agree hw hbytes).1 (.file [255]) (by decide +kernel)
    have hnone : Text.ofBytes? [255] = none := by decide +kernel
    cases hreads with
    | notText hbytes => exact hread
    | malformed hbytes | preferences hbytes => cases hnone.symm.trans hbytes
  · obtain ⟨result, hreads, -, hread, -⟩ :=
      (loaders_agree hw hcustom).1 (.file (Text.bytes custom)) (by decide +kernel)
    have hcontent : read custom = .ok ⟨"load.js", 250, true, false, [], ["ads.com"]⟩ :=
      toOption_eq_some_iff.mp (by decide +kernel)
    rw [hread, hreads.eq_read, hcontent]
    rfl
  · obtain ⟨result, hreads, -, -, hread⟩ :=
      (loaders_agree hw hmistyped).1 (.file (Text.bytes mistyped)) (by decide +kernel)
    have hfault : (read mistyped).mapError Fault.message =
        .error "invalid type: string \"soon\", expected i64" := by decide +kernel
    obtain ⟨fault, hfault, hmessage⟩ := mapError_eq_error_iff.mp hfault
    refine ⟨fault, hmessage, ?_⟩
    rw [hread, hreads.eq_read, hfault]
    rfl

end Preferences

end SessionReplay
