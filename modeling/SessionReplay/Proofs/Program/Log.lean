import SessionReplay.Log
import SessionReplay.Proofs.Program.Frame

/-!
# What the log touches

* `isSame_append`: bytes at the end of another file leave a file as it is;
* `Log.run_start`, `Log.perform_during` — the log of a run, and steps with their lines;
* `Log.Stays` — changes of the log are no changes but of some names;
* **`Log.keeps_start`, `Log.keeps_add`, `Log.keeps_during`, `Log.keeps_after`**: whatever is logged,
  and whatever fails, nothing else changes;
* **`Log.at?_after`**: what is logged of a file that was put in its place leaves it there.
-/

namespace SessionReplay

open FaultyTree (perform Keeps Stable)
open Program (Within Covers)

variable {tree tree' : FileTree} {s s' : FaultyTree} {names : Set FileName} {path place : String}
  {lines : List (List UInt8)}

/-- **Bytes at the end of another file** leave a file as it is. -/
theorem FileTree.isSame_append {content bytes : List UInt8}
    (hat : tree.at? path = some (.file content)) (hsame : tree.isSame path place = false)
    (h : tree.append place bytes = .ok tree') :
    tree'.at? path = some (.file content) ∧ tree'.isSame path place = false := by
  obtain ⟨hplace, old, -, rfl⟩ := append_eq_ok h
  have hfolders := hplace.sameFolders_put (old ++ bytes)
  have hlocate := (at?_eq_some_file_iff.mp hat).1
  have hne : tree.nameOf path ≠ tree.nameOf place := by
    rw [isSame, hlocate, hplace.locate] at hsame
    exact of_decide_eq_false hsame
  refine ⟨(hfolders.at?_eq (entry?_put_of_ne hne)).trans hat, ?_⟩
  rw [isSame, hfolders.locate_iff.mpr hlocate, hfolders.locate_iff.mpr hplace.locate]
  exact decide_eq_false hne

namespace Log

variable {α : Type} {folders : UserFolders} {log : Log}

theorem run_start : FaultyTree.run (start folders lines : StateM FaultyTree Log) s =
    match perform folders.logFile s with
    | (.error _, middle) => (none, middle)
    | (.ok path, middle) =>
      match FaultyTree.run (FaultyTree.append path []) middle with
      | (.error _, s') => (none, s')
      | (.ok (), s') => (some path, (FaultyTree.run (store path lines) s').2) := by
  rw [start, FaultyTree.run_bind]
  unfold perform
  rcases FaultyTree.run (ExceptT.run folders.logFile) s with ⟨problem | path, middle⟩
  · rfl
  change FaultyTree.run (FaultyTree.append path [] >>= _) middle = _
  rw [FaultyTree.run_bind]
  dsimp only
  rcases FaultyTree.run (FaultyTree.append path []) middle with ⟨fault | _, s'⟩ <;> rfl

theorem perform_during (steps : Attempt (StateM FaultyTree) α) :
    perform (log.during lines steps) s =
      ((perform steps s).1, (FaultyTree.run (log.add lines) (perform steps s).2).2) := rfl

/-! ## What changes -/

/-- The log changes nothing but some names. -/
def Stays (log : Log) (tree : FileTree) (names : Set FileName) : Prop :=
  ∀ path ∈ log, tree.nameOf path ∈ names

theorem keeps_store {I : FaultyTree → Prop} (h : ∀ bytes, Stable I (·.append path bytes)) :
    Keeps I (store path lines : StateM FaultyTree Unit) := by
  induction lines with
  | nil => exact .pure _
  | cons line lines ih => exact (Keeps.append h).bind fun _ => ih

theorem keeps_add (h : log.Stays tree names) :
    Keeps (Within names tree) (log.add lines : StateM FaultyTree Unit) := by
  cases log with
  | none => exact .pure _
  | some path => exact keeps_store fun _ => Program.stable_append (h path rfl)

theorem keeps_during {steps : Attempt (StateM FaultyTree) α} (h : log.Stays tree names)
    (hsteps : Keeps (Within names tree) steps.run) :
    Keeps (Within names tree) (log.during lines steps).run :=
  hsteps.bind fun _ => (keeps_add h).bind fun _ => .pure _

theorem keeps_after (h : log.Stays tree names) :
    Keeps (Within names tree) (log.after path lines : StateM FaultyTree Unit) := by
  cases log with
  | none => exact .pure _
  | some place =>
    refine (Keeps.look fun s => s.tree.isSame path place).bind fun same => ?_
    cases same with
    | true => exact .pure _
    | false => exact keeps_store fun _ => Program.stable_append (h place rfl)

/-- The log is a file of the program, and starting it changes nothing else. -/
theorem keeps_start {log : Log} (h : Covers tree (folders.chosen folders.state ".local/state")
      (UserFolders.programName ++ ".log") names) (hs : Within names tree s)
    (hstart : FaultyTree.run (start folders lines) s = (log, s')) :
    log.Stays tree names ∧ Within names tree s' := by
  have hplace := Program.keeps_place h UserFolders.plainName_log
  rw [run_start] at hstart
  rcases hlog : perform folders.logFile s with ⟨problem | path, middle⟩
  · rw [hlog] at hstart
    cases hstart
    exact ⟨nofun, hplace.perform hs hlog⟩
  have hpath := h path (Program.perform_place_ok hlog) ⟨path, Disk.Place.mem_lineage_self, rfl⟩
  have hopened : Within names tree (FaultyTree.run (FaultyTree.append path []) middle).2 :=
    Keeps.append (fun _ => Program.stable_append hpath) middle (hplace.perform hs hlog)
  rw [hlog] at hstart
  dsimp only at hstart
  generalize FaultyTree.run (FaultyTree.append path []) middle = reached at hstart hopened
  obtain ⟨fault | _, opened⟩ := reached
  · cases hstart
    exact ⟨nofun, hopened⟩
  · cases hstart
    refine ⟨fun _ hmem => Option.mem_some.mp hmem ▸ hpath, ?_⟩
    exact keeps_store (fun _ => Program.stable_append hpath) opened hopened

/-! ## Behind a file -/

/-- **A file that was put in its place** is left there by what is logged of it. -/
theorem at?_after {content : List UInt8} (h : s.tree.at? path = some (.file content)) :
    (FaultyTree.run (log.after path lines) s).2.tree.at? path = some (.file content) := by
  cases log with
  | none => exact h
  | some place =>
    have hrun : FaultyTree.run (after (some place) path lines) s =
        FaultyTree.run (if s.tree.isSame path place then pure () else store place lines) s := rfl
    rw [hrun]
    cases hsame : s.tree.isSame path place with
    | true => exact h
    | false =>
      have hstable : ∀ bytes, Stable (fun s : FaultyTree =>
          s.tree.at? path = some (.file content) ∧ s.tree.isSame path place = false)
          (·.append place bytes) :=
        fun _ => ⟨fun _ hs => hs, fun _ _ hs hf => FileTree.isSame_append hs.1 hs.2 hf⟩
      exact (keeps_store hstable s ⟨h, hsame⟩).1

end Log

end SessionReplay
