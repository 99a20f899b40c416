import SessionReplay.Proofs.Disk.Faulty
import SessionReplay.ScriptFile

/-!
# Scripts are written whole or not at all

* `ScriptFile.Aside`, `ScriptFile.Around` — a tree in which at most the temporary file of a script
  has changed, and one in which the script may have changed besides;
* `writeAndRename_error`: what fails before the script is in its place only touches that file;
* `writeAndRename_ok`: what succeeds puts a complete temporary file in place;
* `write_error`, `write_ok`: the same with the temporary file taken away;
* `write_of_calm`: a script that can be written is written, if nothing fails;
* **`write_atomic`**: at every step, whatever fails, the place of a script holds what it held before
  or the whole script.
-/

namespace SessionReplay.ScriptFile

open Disk (Fault Fate)
open FileTree (SameFolders ChangedOnly)
open FaultyTree (perform run Keeps Stable Since stable_since)

variable {path script : String} {tree t t' : FileTree} {s s' : FaultyTree}

/-! ## The temporary file -/

theorem nameOf_temporary_ne : tree.nameOf (temporary path) ≠ tree.nameOf path :=
  FileTree.nameOf_append_ne (by decide) (by decide)

/-- A tree in which at most the temporary file of a script has changed. -/
structure Aside (path : String) (tree t : FileTree) : Prop where
  folders : SameFolders tree t
  others : ChangedOnly {tree.nameOf (temporary path)} tree t

namespace Aside

theorem refl : Aside path tree tree := ⟨.refl tree, .refl _ tree⟩

theorem nameOf_eq {place : String} (h : Aside path tree t) :
    t.nameOf place = tree.nameOf place :=
  FileTree.nameOf_congr h.others.here

theorem at?_eq (h : Aside path tree t) : t.at? path = tree.at? path :=
  h.folders.at?_eq (h.others.entry _ nameOf_temporary_ne.symm)

theorem put {content : List UInt8} (h : Aside path tree t) (hpart : t.Writable (temporary path)) :
    Aside path tree (t.put (t.nameOf (temporary path)) (.file content)) := by
  refine ⟨h.folders.trans (hpart.sameFolders_put content), h.others.trans ?_⟩
  rw [← h.nameOf_eq]
  exact .put

theorem create (h : Aside path tree t) (ht : t.createFile (temporary path) = .ok t') :
    Aside path tree t' := by
  obtain ⟨hpart, rfl⟩ := FileTree.createFile_eq_ok ht
  exact h.put hpart

theorem append {piece : List UInt8} (h : Aside path tree t)
    (ht : t.append (temporary path) piece = .ok t') : Aside path tree t' := by
  obtain ⟨hpart, content, -, rfl⟩ := FileTree.append_eq_ok ht
  exact h.put hpart

theorem remove (h : Aside path tree t) (ht : t.remove (temporary path) = .ok t') :
    Aside path tree t' := by
  obtain ⟨⟨content, hcontent⟩, rfl⟩ := FileTree.remove_eq_ok_iff.mp ht
  refine ⟨h.folders.trans (FileTree.erase_of_at? hcontent).1, h.others.trans ?_⟩
  rw [← h.nameOf_eq]
  exact .erase

end Aside

/-- A tree in which at most a script and its temporary file have changed. -/
structure Around (path : String) (tree t : FileTree) : Prop where
  folders : SameFolders tree t
  others : ChangedOnly {tree.nameOf path, tree.nameOf (temporary path)} tree t

theorem Aside.around (h : Aside path tree t) : Around path tree t :=
  ⟨h.folders, h.others.mono (Set.subset_insert _ _)⟩

theorem Around.at?_eq {place : String} (h : Around path tree t)
    (hpath : tree.nameOf place ≠ tree.nameOf path)
    (hpart : tree.nameOf place ≠ tree.nameOf (temporary path)) : t.at? place = tree.at? place := by
  refine h.folders.at?_eq (h.others.entry _ ?_)
  rintro (hname | hname)
  · exact hpath hname
  · exact hpart hname

/-! ## Steps -/

/-- What all changes of trees keep, the attempt to write a script keeps. -/
theorem keeps_writeAndRename {I : FaultyTree → Prop} (h : ∀ f, Stable I f) :
    Keeps I (writeAndRename path script : Attempt (StateM FaultyTree) Unit).run :=
  (Keeps.file (.attempt (h _))).andThen fun _ =>
    (Keeps.file (.append fun _ => h _)).andThen fun _ =>
      (Keeps.file (.attempt (h _))).andThen fun _ => .file (.attempt (h _))

/-- Since a state, only the temporary file has changed. -/
abbrev OnlyAside (path : String) (s : FaultyTree) : FaultyTree → Prop :=
  Since s.past (Aside path s.tree)

theorem onlyAside_refl : OnlyAside path s s :=
  ⟨.refl, [], rfl, nofun⟩

theorem keeps_create {start : FaultyTree} {task : FileTask} : Keeps (OnlyAside path start)
    (Attempt.file task (Disk.createFile (temporary path)) :
      Attempt (StateM FaultyTree) Unit).run :=
  .file (.attempt (stable_since fun _ _ h ht => h.create ht))

theorem keeps_append {start : FaultyTree} {task : FileTask} {bytes : List UInt8} :
    Keeps (OnlyAside path start) (Attempt.file task (Disk.append (temporary path) bytes) :
      Attempt (StateM FaultyTree) Unit).run :=
  .file (.append fun _ => stable_since fun _ _ h ht => h.append ht)

theorem keeps_sync {start : FaultyTree} {task : FileTask} {place : String} :
    Keeps (OnlyAside path start) (Attempt.file task (Disk.sync place) :
      Attempt (StateM FaultyTree) Unit).run :=
  .file (.attempt (stable_since fun _ _ h ht => Except.ok.inj ht ▸ h))

theorem keeps_remove {start : FaultyTree} : Keeps (OnlyAside path start)
    (Disk.remove (temporary path) : StateM FaultyTree (Except Fault Unit)) :=
  .attempt (stable_since fun _ _ h ht => h.remove ht)

theorem keeps_write {I : FaultyTree → Prop} (h : ∀ f, Stable I f) :
    Keeps I (write path script : Attempt (StateM FaultyTree) Unit).run :=
  (keeps_writeAndRename h).tryCatch fun _ =>
    (Keeps.lift (.attempt (h _))).andThen fun _ => .pure _

/-- **What fails before a script is in its place** only touches its temporary file. -/
theorem writeAndRename_error {problem : Problem}
    (h : perform (writeAndRename path script) s = (.error problem, s')) : OnlyAside path s s' := by
  simp only [writeAndRename, FaultyTree.perform_bind_eq_error_iff] at h
  have hstart : OnlyAside path s s := onlyAside_refl
  rcases h with hcreate | ⟨_, s₁, hcreate, hrest⟩
  · exact keeps_create.perform hstart hcreate
  have hs₁ := keeps_create.perform hstart hcreate
  rcases hrest with happend | ⟨_, s₂, happend, hrest⟩
  · exact keeps_append.perform hs₁ happend
  have hs₂ := keeps_append.perform hs₁ happend
  rcases hrest with hsync | ⟨_, s₃, hsync, hrename⟩
  · exact keeps_sync.perform hs₂ hsync
  have hs₃ := keeps_sync.perform hs₂ hsync
  obtain ⟨fault, hrun⟩ := FaultyTree.perform_file_eq_error hrename
  obtain rfl : s' = s₃.passed := FaultyTree.run_attempt_eq_error hrun
  exact ⟨hs₃.now, hs₃.past⟩

/-- **What succeeds** puts a complete temporary file in place. -/
theorem writeAndRename_ok (h : perform (writeAndRename path script) s = (.ok (), s')) :
    ∃ middle, OnlyAside path s middle ∧
      middle.tree.at? (temporary path) = some (.file (Text.bytes script)) ∧
      middle.tree.Writable path ∧
      s' = middle.moved ((middle.tree.erase (middle.tree.nameOf (temporary path))).put
        (middle.tree.nameOf path) (.file (Text.bytes script))) := by
  simp only [writeAndRename, FaultyTree.perform_bind_eq_ok_iff] at h
  obtain ⟨_, s₁, hcreate, _, s₂, happend, _, s₃, hsync, hrename⟩ := h
  have hs₁ : OnlyAside path s s₁ := keeps_create.perform onlyAside_refl hcreate
  have hs₂ := keeps_append.perform hs₁ happend
  have hs₃ := keeps_sync.perform hs₂ hsync
  -- the temporary file is empty, then complete, and stays so
  have hempty : s₁.tree.at? (temporary path) = some (.file []) :=
    FaultyTree.at?_of_createFile (FaultyTree.perform_file_eq_ok_iff.mp hcreate)
  have hwhole : s₂.tree.at? (temporary path) = some (.file (Text.bytes script)) :=
    FaultyTree.at?_of_append hempty (FaultyTree.perform_file_eq_ok_iff.mp happend)
  obtain ⟨synced, hsynced, rfl⟩ :=
    FaultyTree.run_attempt_eq_ok (FaultyTree.perform_file_eq_ok_iff.mp hsync)
  obtain rfl : s₂.tree = synced := Except.ok.inj hsynced
  obtain ⟨renamed, hrenamed, rfl⟩ :=
    FaultyTree.run_attempt_eq_ok (FaultyTree.perform_file_eq_ok_iff.mp hrename)
  obtain ⟨content, hcontent, hplace, rfl⟩ := FileTree.rename_eq_ok hrenamed
  obtain rfl : Text.bytes script = content := by
    have hsame := hwhole.symm.trans hcontent
    cases hsame
    rfl
  exact ⟨(s₂.passed.moved s₂.tree).passed, ⟨hs₃.now, hs₃.past⟩, hwhole, hplace, rfl⟩

/-- A file that can be taken away is not there afterwards. -/
theorem not_file_of_remove {place : String} (h : ∀ fate ∈ s.fates, fate.fault .remove = none)
    (content : List UInt8) : (run (Disk.remove place : StateM FaultyTree (Except Fault Unit))
      s).2.tree.at? place ≠ some (.file content) := by
  intro hcontent
  have hcalm : (s.fates.headD {}).fault .remove = none := by
    cases hs : s.fates with
    | nil => rfl
    | cons fate fates => exact h fate (hs ▸ List.mem_cons_self)
  change (run (FaultyTree.attempt .remove (·.remove place)) s).2.tree.at? place = _ at hcontent
  rw [FaultyTree.run_attempt, hcalm] at hcontent
  change (run (FaultyTree.change (·.remove place)) s.passed).2.tree.at? place = _ at hcontent
  rw [FaultyTree.run_change] at hcontent
  cases hremove : s.passed.tree.remove place with
  | ok tree =>
    obtain ⟨⟨_, hfile⟩, rfl⟩ := FileTree.remove_eq_ok_iff.mp hremove
    rw [hremove] at hcontent
    have hnone := (FileTree.erase_of_at? hfile).2
    cases hnone.symm.trans hcontent
  | error fault =>
    rw [hremove] at hcontent
    have hok := FileTree.remove_eq_ok_iff.mpr ⟨⟨content, hcontent⟩, rfl⟩
    cases hremove.symm.trans hok

theorem perform_write : perform (write path script) s =
    match perform (writeAndRename path script) s with
    | (.ok (), s') => (.ok (), s')
    | (.error problem, s') => (.error problem,
        (run (Disk.remove (temporary path) : StateM FaultyTree (Except Fault Unit)) s').2) := by
  rw [write, FaultyTree.perform_tryCatch]
  rcases perform (writeAndRename path script) s with ⟨problem | a, s'⟩ <;> rfl

/-- A success puts the script in its place with its last step. -/
theorem write_ok (h : perform (write path script) s = (.ok (), s')) :
    Around path s.tree s'.tree ∧
      s'.tree.at? path = some (.file (Text.bytes script)) ∧ s'.tree.at? (temporary path) = none ∧
      ∃ aside, s'.past = s'.tree :: aside ++ s.past ∧ ∀ t ∈ aside, Aside path s.tree t := by
  rw [perform_write] at h
  rcases hwrite : perform (writeAndRename path script) s with ⟨problem | _, last⟩
  · rw [hwrite] at h
    cases h
  rw [hwrite] at h
  cases h
  obtain ⟨middle, hmiddle, hpart, hplace, rfl⟩ := writeAndRename_ok hwrite
  obtain ⟨hfolders, hothers, hpath, hnone⟩ :=
    FileTree.rename_of_at? hpart hplace nameOf_temporary_ne
  have hnames : ({middle.tree.nameOf path, middle.tree.nameOf (temporary path)} : Set FileName) =
      {s.tree.nameOf path, s.tree.nameOf (temporary path)} := by
    rw [hmiddle.now.nameOf_eq, hmiddle.now.nameOf_eq]
  rw [hnames] at hothers
  obtain ⟨aside, hpast, haside⟩ := hmiddle.past
  exact ⟨⟨hmiddle.now.folders.trans hfolders, hmiddle.now.around.others.trans hothers⟩, hpath,
    hnone, aside, congrArg (_ :: ·) hpast, haside⟩

/-- A failure leaves only the temporary file behind, and not even that one if it can be taken
away. -/
theorem write_error {problem : Problem}
    (h : perform (write path script) s = (.error problem, s')) : OnlyAside path s s' ∧
      ((∀ fate ∈ s.fates, fate.fault .remove = none) →
        ∀ content, s'.tree.at? (temporary path) ≠ some (.file content)) := by
  rw [perform_write] at h
  rcases hwrite : perform (writeAndRename path script) s with ⟨earlier | _, last⟩
  swap
  · rw [hwrite] at h
    cases h
  rw [hwrite] at h
  cases h
  have hlast := writeAndRename_error hwrite
  refine ⟨keeps_remove last hlast, fun hfates => ?_⟩
  have hfate : ∀ fate ∈ last.fates, fate.fault .remove = none :=
    (keeps_writeAndRename fun _ => FaultyTree.stable_fates).perform hfates hwrite
  exact not_file_of_remove hfate

/-- **A script that can be written is written**, as long as nothing befalls the operations. -/
theorem write_of_calm (hs : s.fates = []) (hpart : s.tree.Writable (temporary path))
    (hpath : s.tree.Writable path) : (perform (write path script) s).1 = .ok () := by
  obtain ⟨s₁, hcreate⟩ : ∃ s₁, perform (Attempt.file (.create (temporary path))
      (Disk.createFile (temporary path))) s = (.ok (), s₁) :=
    ⟨_, FaultyTree.perform_file_eq_ok_iff.mpr (FaultyTree.run_attempt_of_ok hs hpart.createFile)⟩
  have hs₁ : OnlyAside path s s₁ := keeps_create.perform onlyAside_refl hcreate
  have hcalm₁ : s₁.fates = [] :=
    (Keeps.file (.attempt FaultyTree.stable_calm)).perform hs hcreate
  have hempty := FaultyTree.at?_of_createFile (FaultyTree.perform_file_eq_ok_iff.mp hcreate)
  obtain ⟨filled, hfilled, hwhole⟩ := FileTree.append_of_at? (Text.bytes script) hempty
  have happend : perform (Attempt.file (.write (temporary path))
      (Disk.append (temporary path) (Text.bytes script))) s₁ = (.ok (), s₁.passed.moved filled) :=
    FaultyTree.perform_file_eq_ok_iff.mpr
      ((FaultyTree.run_append_of_calm hcalm₁).trans (FaultyTree.run_change_of_ok hfilled))
  have hcalm₂ : (s₁.passed.moved filled).fates = [] := FaultyTree.fates_passed hcalm₁
  have hplace : filled.Writable path :=
    hpath.of_sameFolders (keeps_append.perform hs₁ happend).now.folders
  have hsync : perform (Attempt.file (.sync (temporary path)) (Disk.sync (temporary path)))
      (s₁.passed.moved filled) = (.ok (), (s₁.passed.moved filled).passed.moved filled) :=
    FaultyTree.perform_file_eq_ok_iff.mpr (FaultyTree.run_attempt_of_ok hcalm₂ rfl)
  obtain ⟨s₄, hrename⟩ : ∃ s₄, perform (Attempt.file (.rename (temporary path) path)
      (Disk.rename (temporary path) path)) ((s₁.passed.moved filled).passed.moved filled) =
        (.ok (), s₄) :=
    ⟨_, FaultyTree.perform_file_eq_ok_iff.mpr
      (FaultyTree.run_attempt_of_ok (FaultyTree.fates_passed hcalm₂) (hplace.rename hwhole))⟩
  have hwrite : perform (writeAndRename path script) s = (.ok (), s₄) := by
    simp only [writeAndRename, FaultyTree.perform_bind_eq_ok_iff]
    exact ⟨(), s₁, hcreate, (), _, happend, (), _, hsync, hrename⟩
  rw [perform_write, hwrite]

/-- **A script is written whole or not at all.** Whatever fails, and in whatever pieces the bytes
are stored: at every step the place of the script holds what it held before or the whole script, and
nothing but this place and the temporary one changes. A success leaves no temporary file. A failure
leaves the place as it was, and no temporary file either if that can be taken away. -/
theorem write_atomic (path script : String) (tree : FileTree) (fates : List Fate) :
    let part := temporary path
    let written := some (FileEntry.file (Text.bytes script))
    let (result, after) := perform (write path script) (FaultyTree.start tree fates)
    after.past.headD tree = after.tree ∧
    (∀ t ∈ after.past,
      (t.at? path = tree.at? path ∨ t.at? path = written) ∧
      ChangedOnly {tree.nameOf path, tree.nameOf part} tree t ∧
      ∀ place, tree.nameOf place ≠ tree.nameOf path → tree.nameOf place ≠ tree.nameOf part →
        t.at? place = tree.at? place) ∧
    match result with
    | .ok () => after.tree.at? path = written ∧ after.tree.at? part = none
    | .error _ =>
      after.tree.at? path = tree.at? path ∧
      ((∀ fate ∈ fates, fate.fault .remove = none) →
        ∀ content, after.tree.at? part ≠ some (.file content)) := by
  intro part written
  rcases hwrite : perform (write path script) (FaultyTree.start tree fates) with
    ⟨problem | _, after⟩
  · obtain ⟨⟨hnow, fresh, hpast, hfresh⟩, hpart⟩ := write_error hwrite
    refine ⟨(keeps_write fun _ => FaultyTree.stable_last).perform rfl hwrite, fun t ht => ?_,
      hnow.at?_eq, hpart⟩
    have hside := hfresh t (hpast.trans (List.append_nil fresh) ▸ ht)
    exact ⟨.inl hside.at?_eq, hside.around.others, fun _ => hside.around.at?_eq⟩
  · obtain ⟨haround, hplace, hpart, aside, hpast, haside⟩ := write_ok hwrite
    refine ⟨(keeps_write fun _ => FaultyTree.stable_last).perform rfl hwrite, fun t ht => ?_,
      hplace, hpart⟩
    rcases List.mem_cons.mp (hpast.trans (List.append_nil _) ▸ ht) with rfl | ht
    · exact ⟨.inr hplace, haround.others, fun _ => haround.at?_eq⟩
    · have hside := haside t ht
      exact ⟨.inl hside.at?_eq, hside.around.others, fun _ => hside.around.at?_eq⟩

/-- The next disk operation but one stores one byte and finds the disk full. -/
def fullDisk : List Fate :=
  [{}, { fault := fun operation =>
          if operation = .append then some (.other (some 28) "No space left on device") else none
         pieces := [1] }]

/-- A script in place of another one is written without faults. On a full disk there is half a
script under the temporary name for a while, and then nothing, and the other script stays. -/
theorem write_atomic_replaced :
    let tree : FileTree := ⟨[(["a.js"], .file [1])], []⟩
    let (written, after) := perform (write "a.js" "xy") (FaultyTree.start tree [])
    let (failed, before) := perform (write "a.js" "xy") (FaultyTree.start tree fullDisk)
    written = .ok () ∧ after.tree.at? "a.js" = some (.file (Text.bytes "xy")) ∧
      after.tree.at? "a.js.part" = none ∧
    failed.toOption = none ∧
      (∃ t ∈ before.past, t.at? "a.js.part" = some (.file (Text.bytes "x"))) ∧
      before.tree.at? "a.js" = some (.file [1]) ∧
      ∀ content, before.tree.at? "a.js.part" ≠ some (.file content) := by
  intro tree
  have hwritten : (perform (write "a.js" "xy") (FaultyTree.start tree [])).1 = .ok () :=
    write_of_calm rfl ⟨by decide +kernel, by decide +kernel⟩ ⟨by decide +kernel, by decide +kernel⟩
  have hfailed : (perform (write "a.js" "xy") (FaultyTree.start tree fullDisk)).1.toOption = none ∧
      ∃ t ∈ (perform (write "a.js" "xy") (FaultyTree.start tree fullDisk)).2.past,
        t.at? "a.js.part" = some (.file (Text.bytes "x")) := by decide +kernel
  have hother : tree.at? "a.js" = some (.file [1]) := by decide +kernel
  have hcalm := write_atomic "a.js" "xy" tree []
  have hfull := write_atomic "a.js" "xy" tree fullDisk
  generalize perform (write "a.js" "xy") (FaultyTree.start tree []) = calm at hwritten hcalm ⊢
  generalize perform (write "a.js" "xy") (FaultyTree.start tree fullDisk) = full at hfailed hfull ⊢
  obtain ⟨written, after⟩ := calm
  obtain rfl : written = .ok () := hwritten
  obtain ⟨problem | _, before⟩ := full
  · obtain ⟨-, -, hafter, hnone⟩ := hcalm
    obtain ⟨-, -, hsame, hpart⟩ := hfull
    exact ⟨rfl, hafter, hnone, hfailed.1, hfailed.2, hsame.trans hother, hpart (by decide)⟩
  · cases hfailed.1

end SessionReplay.ScriptFile
