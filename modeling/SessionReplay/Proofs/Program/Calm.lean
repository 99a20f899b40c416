import SessionReplay.Program
import SessionReplay.Proofs.Disk.Calm

/-!
# Runs without faults

* `agrees_loadOrDefault`, `agrees_convertFile`, `agrees_write`, `agrees_start`, `agrees_during`,
  `agrees_after`: the parts of a run do the same on a faulty tree without faults as on a tree;
* **`run_calm`**: and so does the program.
-/

namespace SessionReplay.Program

open FaultyTree (Agrees)

variable {folders : UserFolders} {path : String}

theorem agrees_readFile :
    Agrees (Preferences.readFile path).run (Preferences.readFile path).run :=
  (Agrees.file (.readText path)).andThen fun _ => .ofExcept

theorem agrees_createFile :
    Agrees (Preferences.createFile path).run (Preferences.createFile path).run := by
  have hwrite : Agrees
      (Attempt.file (.write path) (Disk.createFile path) >>= fun _ =>
        Attempt.file (.write path) (Disk.append path (Text.bytes Preferences.defaultText))).run
      (Attempt.file (.write path) (Disk.createFile path) >>= fun _ =>
        Attempt.file (.write path) (Disk.append path (Text.bytes Preferences.defaultText))).run :=
    (Agrees.file (.attempt _ _)).andThen fun _ => .file (.append _ _)
  unfold Preferences.createFile
  cases Disk.Place.parent? path with
  | none => exact hwrite
  | some folder => exact (Agrees.file (.createFolders folder)).andThen fun _ => hwrite

theorem agrees_loadAt : Agrees (Preferences.loadAt path).run (Preferences.loadAt path).run := by
  refine (Agrees.lift (.isThere path)).andThen fun there => ?_
  cases there with
  | true => exact agrees_readFile
  | false => exact agrees_createFile.andThen fun _ => .pure _

theorem agrees_loadOrDefaultAt :
    Agrees (Preferences.loadOrDefaultAt path).run (Preferences.loadOrDefaultAt path).run := by
  refine (Agrees.lift (.isThere path)).andThen fun there => ?_
  cases there with
  | true => exact agrees_readFile
  | false => exact agrees_loadAt.tryCatch fun _ => .pure _

theorem agrees_place {folder : Option String} {name : String} :
    Agrees (UserFolders.place folder name).run (UserFolders.place folder name).run := by
  cases folder with
  | none => exact .pure _
  | some folder => exact (Agrees.file (.createFolders _)).andThen fun _ => .pure _

theorem agrees_loadOrDefault :
    Agrees (Preferences.loadOrDefault folders).run (Preferences.loadOrDefault folders).run := by
  refine ((agrees_place.map some).tryCatch fun _ => .pure _).andThen fun place => ?_
  cases place with
  | none => exact .pure _
  | some path => exact agrees_loadOrDefaultAt

theorem agrees_convertFile {settings : Settings} :
    Agrees (CaptureFile.convert path settings).run (CaptureFile.convert path settings).run :=
  ((Agrees.file (.stream path)).andThen fun _ => .ofExcept).andThen fun _ => .ofExcept

theorem agrees_write {script : String} :
    Agrees (ScriptFile.write path script).run (ScriptFile.write path script).run := by
  refine Agrees.tryCatch ?_ fun _ => (Agrees.lift (.attempt _ _)).andThen fun _ => .pure _
  exact (Agrees.file (.attempt _ _)).andThen fun _ => (Agrees.file (.append _ _)).andThen fun _ =>
    (Agrees.file (.sync _)).andThen fun _ => .file (.attempt _ _)

/-! ## The log -/

section Log

variable {log : Log} {bytes : List (List UInt8)}

theorem agrees_store : Agrees (Log.store path bytes) (Log.store path bytes) := by
  induction bytes with
  | nil => exact .pure _
  | cons line lines ih => exact (Agrees.append path line).bind fun _ => ih

theorem agrees_start : Agrees (Log.start folders bytes) (Log.start folders bytes) := by
  refine agrees_place.bind fun result => ?_
  cases result with
  | error problem => exact .pure _
  | ok path =>
    refine (Agrees.append path []).bind fun result => ?_
    cases result with
    | error fault => exact .pure _
    | ok _ => exact agrees_store.bind fun _ => .pure _

theorem agrees_add : Agrees (log.add bytes) (log.add bytes) := by
  cases log with
  | none => exact .pure _
  | some path => exact agrees_store

theorem agrees_during {α : Type} {x : Attempt (StateM FaultyTree) α}
    {y : Attempt (StateM FileTree) α} (h : Agrees x.run y.run) :
    Agrees (log.during bytes x).run (log.during bytes y).run :=
  h.bind fun _ => agrees_add.bind fun _ => .pure _

theorem agrees_after : Agrees (log.after path bytes) (log.after path bytes) := by
  cases log with
  | none => exact .pure _
  | some place =>
    refine (Agrees.isSame path place).bind fun same => ?_
    cases same with
    | true => exact .pure _
    | false => exact agrees_store

end Log

/-! ## Runs -/

theorem agrees_convert {log : Log} {lines : LogLines} {overrides : Overrides} :
    Agrees (convert folders log lines path overrides).run
      (convert folders log lines path overrides).run := by
  refine (agrees_during agrees_loadOrDefault).andThen fun preferences => ?_
  cases overrides.resolve? preferences with
  | none => exact .pure _
  | some resolved =>
    exact (agrees_during agrees_convertFile).andThen fun _ => agrees_write.andThen fun _ =>
      (Agrees.lift agrees_after).andThen fun _ => .pure _

/-- **Without faults, a run on a faulty tree is a run on the tree.** -/
theorem run_calm (wording : CommandLine.Wording) (folders : UserFolders) (lines : LogLines)
    (arguments : List String) (tree : FileTree) :
    let reached :=
      FaultyTree.run (run wording folders lines arguments) (FaultyTree.start tree [])
    StateT.run (run wording folders lines arguments : StateM FileTree Outcome) tree =
      (reached.1, reached.2.tree) := by
  have hagrees : Agrees (run wording folders lines arguments)
      (run wording folders lines arguments) := by
    refine agrees_start.bind fun _ => ?_
    cases CommandLine.readArguments arguments with
    | error halt => exact .pure _
    | ok command =>
      cases command with
      | completions shell => exact .pure _
      | convert path overrides => exact agrees_convert.bind fun _ => .pure _
  exact (hagrees (FaultyTree.start tree []) rfl).1.symm

end SessionReplay.Program
