import SessionReplay.Program
import SessionReplay.Proofs.Conversion.Outcome
import SessionReplay.Proofs.Program.Log
import SessionReplay.Proofs.ScriptFile.Atomic

/-!
# A run does all or nothing

* `Program.prepare` — what a run does before it writes a script;
* `Program.Ready` — all of that succeeds;
* `prepare_eq_ok_iff`, `Ready.convert`: then there is a script to write;
* `run_of_written`, `run_of_not_written`, `run_of_not_ready`: what a run tells, and what it leaves,
  as far as it comes;
* **`run_all_or_nothing`**: a run that succeeds leaves the script and nothing else but its own
  files; one that fails leaves everything but these and the temporary file as it was.
-/

namespace SessionReplay.Program

open Capture (Archive)
open FileTree (ChangedOnly)
open FaultyTree (perform Keeps)

variable {wording : CommandLine.Wording} {folders : UserFolders} {lines : LogLines} {log : Log}
  {arguments : List String} {path : String} {overrides : Overrides} {output script : String}
  {settings : Settings} {archive : Archive} {s s' started ready : FaultyTree}

/-! ## Before the script -/

/-- What a run does before it writes a script: the place of the script, and its text. -/
def prepare (folders : UserFolders) (log : Log) (lines : LogLines) (path : String)
    (overrides : Overrides) : Attempt (StateM FaultyTree) (String × String) := do
  let preferences ← log.during lines.loaded (Preferences.loadOrDefault folders)
  match overrides.resolve? preferences with
  | none => throw .threshold
  | some (output, settings) => do
    let script ← log.during lines.converted (CaptureFile.convert path settings)
    return (output, script)

theorem perform_convert : perform (convert folders log lines path overrides) s =
    match perform (prepare folders log lines path overrides) s with
    | (.ok (output, script), ready) =>
      match perform (ScriptFile.write output script) ready with
      | (.ok _, written) =>
        (.ok output, (FaultyTree.run (log.after output lines.written) written).2)
      | (.error problem, s') => (.error problem, s')
    | (.error problem, s') => (.error problem, s') := by
  rw [convert, prepare, FaultyTree.perform_bind, FaultyTree.perform_bind]
  rcases perform (log.during lines.loaded (Preferences.loadOrDefault folders)) s with
    ⟨problem | preferences, loaded⟩
  · rfl
  dsimp only
  cases overrides.resolve? preferences with
  | none => rfl
  | some resolved =>
    obtain ⟨output, settings⟩ := resolved
    dsimp only
    rw [FaultyTree.perform_bind, FaultyTree.perform_bind]
    rcases perform (log.during lines.converted (CaptureFile.convert path settings)) loaded with
      ⟨problem | script, ready⟩
    · rfl
    · dsimp only
      rw [FaultyTree.perform_bind, FaultyTree.perform_pure]
      dsimp only
      rcases perform (ScriptFile.write output script) ready with ⟨problem | _, s'⟩ <;> rfl

/-- All that comes before a script succeeds, in the state behind the start of the log: the
preferences load, the output and the settings follow from them, all bytes that the file of a session
holds are read and decoded, and the settings are valid. Each of the two tasks is logged. -/
def Ready (folders : UserFolders) (log : Log) (lines : LogLines) (path : String)
    (overrides : Overrides) (started : FaultyTree) (output : String) (settings : Settings)
    (archive : Archive) (ready : FaultyTree) : Prop :=
  ∃ preferences loaded stream bytes closed,
    perform (log.during lines.loaded (Preferences.loadOrDefault folders)) started =
      (.ok preferences, loaded) ∧
    overrides.resolve? preferences = some (output, settings) ∧
    FaultyTree.run (Disk.stream path) loaded = (.ok stream, closed) ∧
    stream.bytes = .ok bytes ∧ loaded.tree.at? path = some (.file bytes) ∧
    Archive.decode bytes = .ok archive ∧ settings.check = .ok () ∧
    ready = (FaultyTree.run (log.add lines.converted) closed).2

/-- **A session that is ready makes a script.** -/
theorem Ready.convert
    (h : Ready folders log lines path overrides started output settings archive ready) :
    ∃ script, SessionReplay.convert archive settings = .ok script := by
  obtain ⟨_, _, _, bytes, _, -, -, -, -, -, hdecode, hcheck, -⟩ := h
  refine convert_of_hosts (fun entry hentry => ?_) hcheck
  obtain ⟨host, hhost, -⟩ := (Archive.checked_of_decode hdecode entry hentry).host
  exact Option.ne_none_iff_exists'.mpr ⟨host, hhost⟩

theorem decodeStream_eq_ok_iff {stream : Disk.Stream} :
    Archive.decodeStream stream = .ok archive ↔
      ∃ bytes, stream.bytes = .ok bytes ∧ Archive.decode bytes = .ok archive := by
  obtain ⟨pieces, _ | fault⟩ := stream
  · constructor
    · exact fun h => ⟨_, rfl, h⟩
    · rintro ⟨_, hbytes, h⟩
      obtain rfl := Except.ok.inj hbytes
      exact h
  · exact iff_of_false nofun fun ⟨_, hbytes, _⟩ => nomatch hbytes

theorem convertFile_eq_ok_iff {loaded closed : FaultyTree} :
    perform (CaptureFile.convert path settings) loaded = (.ok script, closed) ↔
      ∃ stream bytes archive, FaultyTree.run (Disk.stream path) loaded = (.ok stream, closed) ∧
        stream.bytes = .ok bytes ∧ Archive.decode bytes = .ok archive ∧
        SessionReplay.convert archive settings = .ok script := by
  simp only [CaptureFile.convert, CaptureFile.read, FaultyTree.perform_bind_eq_ok_iff,
    FaultyTree.perform_file_eq_ok_iff, FaultyTree.perform_ofExcept, Prod.mk.injEq,
    mapError_eq_ok_iff, decodeStream_eq_ok_iff]
  constructor
  · rintro ⟨archive, _, ⟨stream, _, hstream, ⟨bytes, hbytes, hdecode⟩, rfl⟩, hscript, rfl⟩
    exact ⟨stream, bytes, archive, hstream, hbytes, hdecode, hscript⟩
  · rintro ⟨stream, bytes, archive, hstream, hbytes, hdecode, hscript⟩
    exact ⟨archive, _, ⟨stream, _, hstream, ⟨bytes, hbytes, hdecode⟩, rfl⟩, hscript, rfl⟩

/-- The bytes that are read are those of the file. -/
theorem at?_of_bytes {loaded closed : FaultyTree} {stream : Disk.Stream} {bytes : List UInt8}
    (hstream : FaultyTree.run (Disk.stream path) loaded = (.ok stream, closed))
    (hbytes : stream.bytes = .ok bytes) : loaded.tree.at? path = some (.file bytes) := by
  obtain ⟨pieces, _ | fault⟩ := stream
  · obtain rfl := Except.ok.inj hbytes
    exact FaultyTree.at?_of_stream (congrArg Prod.fst hstream) rfl
  · cases hbytes

/-- The script is prepared if all that comes before it succeeds. -/
theorem prepare_eq_ok_iff :
    perform (prepare folders log lines path overrides) started = (.ok (output, script), ready) ↔
    ∃ settings archive,
      Ready folders log lines path overrides started output settings archive ready ∧
      SessionReplay.convert archive settings = .ok script := by
  rw [prepare, FaultyTree.perform_bind_eq_ok_iff]
  constructor
  · rintro ⟨preferences, loaded, hload, hrest⟩
    cases hresolve : overrides.resolve? preferences with
    | none =>
      rw [hresolve] at hrest
      cases hrest
    | some resolved =>
      obtain ⟨place, settings⟩ := resolved
      rw [hresolve] at hrest
      dsimp only at hrest
      obtain ⟨_, _, hconvert, hpure⟩ := FaultyTree.perform_bind_eq_ok_iff.mp hrest
      cases hpure
      rw [Log.perform_during] at hconvert
      obtain ⟨hscript, hready⟩ := Prod.mk.inj hconvert
      obtain ⟨stream, bytes, archive, hstream, hbytes, hdecode, hscript⟩ :=
        convertFile_eq_ok_iff.mp (Prod.ext hscript rfl)
      exact ⟨settings, archive, ⟨preferences, loaded, stream, bytes, _, hload, hresolve, hstream,
        hbytes, at?_of_bytes hstream hbytes, hdecode, (convert_eq_ok_iff.mp hscript).1,
        hready.symm⟩, hscript⟩
  · rintro ⟨settings, archive, ⟨preferences, loaded, stream, bytes, closed, hload, hresolve,
      hstream, hbytes, -, hdecode, -, rfl⟩, hscript⟩
    have hconvert :=
      convertFile_eq_ok_iff.mpr ⟨stream, bytes, archive, hstream, hbytes, hdecode, hscript⟩
    refine ⟨preferences, loaded, hload, ?_⟩
    rw [hresolve]
    refine FaultyTree.perform_bind_eq_ok_iff.mpr ⟨script, _, ?_, rfl⟩
    rw [Log.perform_during, hconvert]

/-- The names of the program's own files cover what it does with them. -/
theorem covers_config {tree : FileTree} : Covers tree (folders.chosen folders.config ".config")
    "config.toml" (folders.ownNames tree) :=
  fun file hfile _ hname => ⟨file, .inl hfile, hname⟩

theorem covers_log {tree : FileTree} : Covers tree (folders.chosen folders.state ".local/state")
    (UserFolders.programName ++ ".log") (folders.ownNames tree) :=
  fun file hfile _ hname => ⟨file, .inr hfile, hname⟩

theorem keeps_prepare {tree : FileTree} (hlog : log.Stays tree (folders.ownNames tree)) :
    Keeps (Within (folders.ownNames tree) tree)
      (prepare folders log lines path overrides).run := by
  refine (Log.keeps_during hlog (keeps_loadOrDefault covers_config)).andThen fun preferences => ?_
  cases overrides.resolve? preferences with
  | none => exact .pure _
  | some resolved => exact (Log.keeps_during hlog keeps_convertFile).andThen fun _ => .pure _

/-- What comes before a script only touches the program's own files. -/
theorem within_prepare {result : Except Problem (String × String)}
    (hstart : FaultyTree.run (Log.start folders lines.opened) s = (log, started))
    (h : perform (prepare folders log lines path overrides) started = (result, s')) :
    ChangedOnly (folders.ownNames s.tree) s.tree s'.tree := by
  obtain ⟨hlog, hstarted⟩ := Log.keeps_start covers_log (.refl _ s.tree) hstart
  exact (keeps_prepare hlog).perform hstarted h

/-! ## The whole run -/

theorem run_eq (h : CommandLine.readArguments arguments = .ok (.convert path overrides))
    (hstart : FaultyTree.run (Log.start folders lines.opened) s = (log, started)) :
    FaultyTree.run (run wording folders lines arguments) s =
      let reached := perform (convert folders log lines path overrides) started
      (told reached.1, reached.2) := by
  rw [run, FaultyTree.run_bind, hstart, h]
  rfl

theorem exit_eq_zero_or_one
    (h : CommandLine.readArguments arguments = .ok (.convert path overrides)) :
    (FaultyTree.run (run wording folders lines arguments) s).1.exit = 0 ∨
      (FaultyTree.run (run wording folders lines arguments) s).1.exit = 1 := by
  rcases hstart : FaultyTree.run (Log.start folders lines.opened) s with ⟨log, started⟩
  rw [run_eq h hstart]
  dsimp only
  cases (perform (convert folders log lines path overrides) started).1 with
  | ok output => exact .inl rfl
  | error problem => exact .inr rfl

section Started

variable (h : CommandLine.readArguments arguments = .ok (.convert path overrides))
  (hstart : FaultyTree.run (Log.start folders lines.opened) s = (log, started))

include h hstart

/-- Where the script cannot be prepared, the run fails. -/
theorem run_of_not_ready (hready : ¬ ∃ output settings archive ready,
      Ready folders log lines path overrides started output settings archive ready) :
    (FaultyTree.run (run wording folders lines arguments) s).1.exit = 1 ∧
      ChangedOnly (folders.ownNames s.tree) s.tree
        (FaultyTree.run (run wording folders lines arguments) s).2.tree := by
  rw [run_eq h hstart, perform_convert]
  rcases hprepare : perform (prepare folders log lines path overrides) started with
    ⟨problem | ⟨output, script⟩, ready⟩
  · exact ⟨rfl, within_prepare hstart hprepare⟩
  · obtain ⟨settings, archive, hprepared, -⟩ := prepare_eq_ok_iff.mp hprepare
    exact absurd ⟨output, settings, archive, ready, hprepared⟩ hready

/-- Where it can, the run succeeds if the script is written. -/
theorem run_of_ready
    (hready : Ready folders log lines path overrides started output settings archive ready)
    (hscript : SessionReplay.convert archive settings = .ok script) :
    FaultyTree.run (run wording folders lines arguments) s =
      match perform (ScriptFile.write output script) ready with
      | (.ok _, written) =>
        (told (.ok output), (FaultyTree.run (log.after output lines.written) written).2)
      | (.error problem, s') => (told (.error problem), s') := by
  rw [run_eq h hstart, perform_convert, prepare_eq_ok_iff.mpr ⟨settings, archive, hready, hscript⟩]
  dsimp only
  rcases perform (ScriptFile.write output script) ready with ⟨problem | _, s'⟩ <;> rfl

omit h in
theorem within_ready
    (hready : Ready folders log lines path overrides started output settings archive ready) :
    ChangedOnly (folders.ownNames s.tree) s.tree ready.tree := by
  obtain ⟨script, hscript⟩ := hready.convert
  exact within_prepare hstart (prepare_eq_ok_iff.mpr ⟨settings, archive, hready, hscript⟩)

/-- The run succeeds, and leaves the script. -/
theorem run_of_written
    (hready : Ready folders log lines path overrides started output settings archive ready)
    (hscript : SessionReplay.convert archive settings = .ok script)
    (hwrite : (perform (ScriptFile.write output script) ready).1 = .ok ()) :
    (FaultyTree.run (run wording folders lines arguments) s).1.exit = 0 ∧
      (FaultyTree.run (run wording folders lines arguments) s).2.tree.at? output =
        some (.file (Text.bytes script)) ∧
      ChangedOnly (folders.ownNames s.tree ∪
          {s.tree.nameOf output, s.tree.nameOf (ScriptFile.temporary output)})
        s.tree (FaultyTree.run (run wording folders lines arguments) s).2.tree := by
  rw [run_of_ready h hstart hready hscript]
  rcases hreached : perform (ScriptFile.write output script) ready with ⟨problem | _, written⟩
  · rw [hreached] at hwrite
    cases hwrite
  obtain ⟨haround, hplace, -⟩ := ScriptFile.write_ok hreached
  have hbefore := within_ready hstart hready
  have hlog := (Log.keeps_start covers_log (.refl _ s.tree) hstart).1
  have hothers : ChangedOnly (folders.ownNames s.tree ∪
      {s.tree.nameOf output, s.tree.nameOf (ScriptFile.temporary output)}) s.tree written.tree := by
    refine (hbefore.mono Set.subset_union_left).trans ?_
    rw [← FileTree.nameOf_congr hbefore.here, ← FileTree.nameOf_congr hbefore.here]
    exact haround.others.mono Set.subset_union_right
  exact ⟨rfl, Log.at?_after hplace,
    Log.keeps_after (fun place hmem => .inl (hlog place hmem)) written hothers⟩

/-- The run fails, and leaves at most a temporary file. -/
theorem run_of_not_written
    (hready : Ready folders log lines path overrides started output settings archive ready)
    (hscript : SessionReplay.convert archive settings = .ok script)
    (hwrite : (perform (ScriptFile.write output script) ready).1 ≠ .ok ()) :
    (FaultyTree.run (run wording folders lines arguments) s).1.exit = 1 ∧
      ChangedOnly (folders.ownNames s.tree ∪ {s.tree.nameOf (ScriptFile.temporary output)})
        s.tree (FaultyTree.run (run wording folders lines arguments) s).2.tree := by
  have hbefore := within_ready hstart hready
  rw [run_of_ready h hstart hready hscript]
  rcases hreached : perform (ScriptFile.write output script) ready with ⟨problem | _, after⟩
  · obtain ⟨haside, -⟩ := ScriptFile.write_error hreached
    refine ⟨rfl, (hbefore.mono Set.subset_union_left).trans ?_⟩
    rw [← FileTree.nameOf_congr hbefore.here]
    exact haside.now.others.mono Set.subset_union_right
  · rw [hreached] at hwrite
    exact absurd rfl hwrite

/-- The run succeeds if the script can be prepared and written. -/
theorem exit_eq_zero_iff :
    (FaultyTree.run (run wording folders lines arguments) s).1.exit = 0 ↔
      ∃ output settings archive ready script,
        Ready folders log lines path overrides started output settings archive ready ∧
        SessionReplay.convert archive settings = .ok script ∧
        (perform (ScriptFile.write output script) ready).1 = .ok () := by
  constructor
  · intro hexit
    by_contra hnone
    by_cases hready : ∃ output settings archive ready,
        Ready folders log lines path overrides started output settings archive ready
    · obtain ⟨output, settings, archive, ready, hready⟩ := hready
      obtain ⟨script, hscript⟩ := hready.convert
      have hwrite := fun hok =>
        hnone ⟨output, settings, archive, ready, script, hready, hscript, hok⟩
      exact absurd
        (hexit.symm.trans (run_of_not_written h hstart hready hscript hwrite).1) nofun
    · exact absurd (hexit.symm.trans (run_of_not_ready h hstart hready).1) nofun
  · rintro ⟨output, settings, archive, ready, script, hready, hscript, hwrite⟩
    exact (run_of_written h hstart hready hscript hwrite).1

end Started

/-- **A run does all or nothing**, whatever is logged. It succeeds if the script can be prepared and
written, and else it fails. A success leaves the script of the session that was read, under the
settings that follow from the preferences and the command line, and nothing else changes but the
temporary file and the program's own files with their folders. A failure changes at most these, and
the temporary file only if the script was prepared. -/
theorem run_all_or_nothing (wording : CommandLine.Wording) (folders : UserFolders)
    (lines : LogLines) (s : FaultyTree)
    (h : CommandLine.readArguments arguments = .ok (.convert path overrides)) :
    let own := folders.ownNames s.tree
    let (log, started) := FaultyTree.run (Log.start folders lines.opened) s
    let (outcome, after) := FaultyTree.run (run wording folders lines arguments) s
    (outcome.exit = 0 ↔ ∃ output settings archive ready script,
      Ready folders log lines path overrides started output settings archive ready ∧
      SessionReplay.convert archive settings = .ok script ∧
      (perform (ScriptFile.write output script) ready).1 = .ok ()) ∧
    (outcome.exit ≠ 0 → outcome.exit = 1) ∧
    (∀ output settings archive ready,
      Ready folders log lines path overrides started output settings archive ready →
      ∃ script, SessionReplay.convert archive settings = .ok script ∧
        (outcome.exit = 0 → after.tree.at? output = some (.file (Text.bytes script)) ∧
          ChangedOnly (own ∪ {s.tree.nameOf output, s.tree.nameOf (ScriptFile.temporary output)})
            s.tree after.tree) ∧
        (outcome.exit ≠ 0 →
          (s.tree.nameOf output ∉ own → after.tree.entry? (s.tree.nameOf output) =
            s.tree.entry? (s.tree.nameOf output)) ∧
          ChangedOnly (own ∪ {s.tree.nameOf (ScriptFile.temporary output)}) s.tree after.tree)) ∧
    ((¬ ∃ output settings archive ready,
        Ready folders log lines path overrides started output settings archive ready) →
      ChangedOnly own s.tree after.tree) := by
  intro own
  have hstart : FaultyTree.run (Log.start folders lines.opened) s = (_, _) := rfl
  refine ⟨exit_eq_zero_iff h hstart, (exit_eq_zero_or_one h).resolve_left,
    fun output settings archive ready hready => ?_,
    fun hready => (run_of_not_ready h hstart hready).2⟩
  obtain ⟨script, hscript⟩ := hready.convert
  by_cases hwrite : (perform (ScriptFile.write output script) ready).1 = .ok ()
  · obtain ⟨hexit, hafter⟩ := run_of_written h hstart hready hscript hwrite
    exact ⟨script, hscript, fun _ => hafter, fun hne => absurd hexit hne⟩
  · obtain ⟨hexit, hothers⟩ := run_of_not_written h hstart hready hscript hwrite
    refine ⟨script, hscript, fun hzero => absurd (hzero.symm.trans hexit) nofun, fun _ =>
      ⟨fun hown => hothers.entry _ ?_, hothers⟩⟩
    rintro (hmem | hmem)
    · exact hown hmem
    · exact ScriptFile.nameOf_temporary_ne (Set.mem_singleton_iff.mp hmem).symm

/-- A run in a folder with a session, for a user with a home, succeeds and logs what it does. A run
on its own log finds the first lines of its start behind a session, and fails. -/
theorem run_all_or_nothing_oneEntryDocument :
    let s := FaultyTree.start ⟨[(["a.har"], .file oneEntryDocument)], []⟩ []
    let logged := FaultyTree.start
      ⟨[(["har2k6"], .folder), (["har2k6", "har2k6.log"], .file oneEntryDocument)], []⟩ []
    let folders : UserFolders := ⟨some "/home", none, some "/"⟩
    let lines : LogLines := ⟨[[49]], [[50], [51]], [], [[52]]⟩
    let wording : CommandLine.Wording := ⟨fun _ _ => "", fun _ => ""⟩
    let reached := FaultyTree.run (run wording folders lines ["convert", "a.har"]) s
    let failed := FaultyTree.run (run wording folders lines ["convert", "har2k6/har2k6.log"]) logged
    (reached.1.exit = 0 ∧
      reached.2.tree.at? "/har2k6/har2k6.log" = some (.file [49, 50, 51, 52])) ∧
    (∃ output script, reached.2.tree.at? output = some (.file (Text.bytes script)) ∧
      ChangedOnly (folders.ownNames s.tree ∪
          {s.tree.nameOf output, s.tree.nameOf (ScriptFile.temporary output)})
        s.tree reached.2.tree) ∧
    failed.1.exit = 1 := by
  intro s logged folders lines wording reached failed
  have harguments : CommandLine.readArguments ["convert", "a.har"] = .ok (.convert "a.har" {}) := by
    decide +kernel
  have hreached : reached.1.exit = 0 ∧
      reached.2.tree.at? "/har2k6/har2k6.log" = some (.file [49, 50, 51, 52]) := by
    decide +kernel
  have hrun := run_all_or_nothing wording folders lines s harguments
  obtain ⟨output, settings, archive, ready, script, hready, -⟩ := hrun.1.mp hreached.1
  obtain ⟨script, -, hafter, -⟩ := hrun.2.2.1 output settings archive ready hready
  exact ⟨hreached, ⟨output, script, hafter hreached.1⟩, by decide +kernel⟩

end SessionReplay.Program
