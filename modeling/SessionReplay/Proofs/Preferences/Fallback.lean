import SessionReplay.Preferences.Load
import SessionReplay.Proofs.Disk.Faulty
import SessionReplay.Proofs.Preferences.Document

/-!
# Defaults for lack of a settings file

* `Preferences.written?` — the preferences that the file at a place writes;
* `Preferences.ReadsAs` — what a file or folder is read as;
* `perform_readFile`, `readsAs_readFile`, `perform_readFile_of_calm`: what is read of a file that is
  there;
* `createFile_cases`: a failed attempt to create a file of the defaults leaves new folders, or the
  first bytes of such a file;
* **`loadOrDefaultAt_again_iff`**: when a second load agrees with the first one.
-/

namespace SessionReplay.Preferences

open Disk (Fate)
open FileTree (FoldersAdded)
open FaultyTree (perform run Keeps)

variable {path text : String} {prefs : Preferences} {tree : FileTree} {s s' : FaultyTree}

/-! ## Reading -/

/-- The preferences that the file at a place writes. -/
def written? (tree : FileTree) (path : String) : Option Preferences :=
  match tree.at? path with
  | some (.file content) => (Text.ofBytes? content).bind fun text => (read text).toOption
  | _ => none

theorem text_of_bytes {stream : Disk.Stream} {content : List UInt8}
    (h : stream.bytes = .ok content) : stream.text =
      match Text.ofBytes? content with
      | some text => .ok text
      | none => .error .notText := by
  rw [Disk.Stream.text, h]
  dsimp only [bind, Except.bind]
  cases Text.ofBytes? content <;> rfl

theorem text_eq_ok_iff {stream : Disk.Stream} : stream.text = .ok text ↔
    stream.failure = none ∧ Text.ofBytes? stream.pieces.flatten = some text := by
  obtain ⟨pieces, _ | fault⟩ := stream
  · rw [text_of_bytes rfl]
    cases Text.ofBytes? pieces.flatten with
    | none => exact iff_of_false nofun nofun
    | some found => simp
  · exact iff_of_false nofun nofun

theorem run_readText :
    run (Disk.readText path : StateM FaultyTree (Except Disk.Fault String)) s =
    ((run (FaultyTree.stream path) s).1.bind Disk.Stream.text,
      (run (FaultyTree.stream path) s).2) := rfl

/-- What is read of a file is what it writes, whatever may fail. -/
theorem perform_readFile (h : perform (readFile path) s = (.ok prefs, s')) :
    written? s.tree path = some prefs ∧ s' = s.passed := by
  rw [readFile, FaultyTree.perform_bind_eq_ok_iff] at h
  obtain ⟨text, middle, htext, hread⟩ := h
  rw [FaultyTree.perform_file_eq_ok_iff, run_readText] at htext
  rw [FaultyTree.perform_ofExcept] at hread
  obtain ⟨hstream, rfl⟩ := Prod.mk.inj htext
  obtain ⟨hprefs, rfl⟩ := Prod.mk.inj hread
  obtain ⟨stream, hstream, hbytes⟩ := bind_eq_ok_iff.mp hstream
  obtain ⟨hend, hbytes⟩ := text_eq_ok_iff.mp hbytes
  refine ⟨?_, by rw [FaultyTree.run_stream]⟩
  rw [written?, FaultyTree.at?_of_stream hstream hend]
  dsimp only
  rw [hbytes]
  exact toOption_eq_some_iff.mpr (mapError_eq_ok_iff.mp hprefs)

theorem text_streamOf (content : List UInt8) : (FileTree.streamOf (.file content)).text =
    match Text.ofBytes? content with
    | some text => .ok text
    | none => .error .notText :=
  text_of_bytes (congrArg Except.ok List.flatten_singleton)

/-- What a file or folder is read as. Only a text that writes preferences is read without a problem,
and as these. -/
inductive ReadsAs (path : String) : FileEntry → Except Problem Preferences → Prop
  | folder : ReadsAs path .folder (.error (.file (.read path) .isFolder))
  | notText {content : List UInt8} (hbytes : Text.ofBytes? content = none) :
    ReadsAs path (.file content) (.error (.file (.read path) .notText))
  | malformed {content : List UInt8} {text : String} {fault : Fault}
    (hbytes : Text.ofBytes? content = some text) (hnone : ∀ prefs, ¬ IsDocument text prefs)
    (hread : read text = .error fault) :
    ReadsAs path (.file content) (.error (.preferences path fault))
  | preferences {content : List UInt8} {text : String} {prefs : Preferences}
    (hbytes : Text.ofBytes? content = some text) (hdocument : IsDocument text prefs) :
    ReadsAs path (.file content) (.ok prefs)

/-- What is there is read as preferences if it is a file of a text that writes them. -/
theorem ReadsAs.eq_ok_iff {entry : FileEntry} {result : Except Problem Preferences}
    (h : ReadsAs path entry result) : result = .ok prefs ↔ ∃ content text,
      entry = .file content ∧ Text.ofBytes? content = some text ∧ IsDocument text prefs := by
  constructor
  · rintro rfl
    cases h with
    | preferences hbytes hdocument => exact ⟨_, _, rfl, hbytes, hdocument⟩
  · rintro ⟨content, text, rfl, htext, hprefs⟩
    cases h with
    | notText hbytes => cases hbytes.symm.trans htext
    | malformed hbytes hnone hread =>
      cases hbytes.symm.trans htext
      exact absurd hprefs (hnone prefs)
    | preferences hbytes hdocument =>
      cases hbytes.symm.trans htext
      rw [hdocument.unique hprefs]

theorem ReadsAs.toOption_eq {entry : FileEntry} {result : Except Problem Preferences}
    (h : ReadsAs path entry result) (hat : tree.at? path = some entry) :
    result.toOption = written? tree path := by
  rw [written?, hat]
  cases h with
  | folder => rfl
  | notText hbytes =>
    dsimp only
    rw [hbytes]
    rfl
  | malformed hbytes hnone hread =>
    dsimp only
    rw [hbytes, Option.bind_some, hread]
    rfl
  | preferences hbytes hdocument =>
    dsimp only
    rw [hbytes, Option.bind_some, read_eq_ok_iff.mpr hdocument]
    rfl

/-- Without faults, what is there is read as what it is. -/
theorem readsAs_readFile (hs : s.fates = []) {entry : FileEntry}
    (h : s.tree.at? path = some entry) : ∃ result,
    ReadsAs path entry result ∧ perform (readFile path) s = (result, s.passed) := by
  have hfind : s.tree.find path = .ok entry := toOption_eq_some_iff.mp h
  have htext : perform (Attempt.file (.read path) (Disk.readText path)) s =
      ((FileTree.streamOf entry).text.mapError (.file (.read path)), s.passed) := by
    rw [FaultyTree.perform_file, run_readText, FaultyTree.run_stream_of_calm hs, hfind]
    rfl
  rw [readFile, FaultyTree.perform_bind, htext]
  cases entry with
  | folder => exact ⟨_, .folder, rfl⟩
  | file content =>
    rw [text_streamOf]
    cases hbytes : Text.ofBytes? content with
    | none => exact ⟨_, .notText hbytes, rfl⟩
    | some text =>
      dsimp only [Except.mapError]
      rw [FaultyTree.perform_ofExcept]
      cases hread : read text with
      | error fault =>
        refine ⟨_, .malformed hbytes (fun prefs hdocument => ?_) hread, rfl⟩
        rw [read_eq_ok_iff.mpr hdocument] at hread
        cases hread
      | ok prefs => exact ⟨_, .preferences hbytes (read_eq_ok_iff.mp hread), rfl⟩

/-- Without faults, all that a file writes is read. -/
theorem perform_readFile_of_calm (h : s.fates = []) :
    (perform (readFile path) s).1.toOption = written? s.tree path := by
  cases hat : s.tree.at? path with
  | some entry =>
    obtain ⟨result, hreads, hperform⟩ := readsAs_readFile h hat
    rw [hperform]
    exact hreads.toOption_eq hat
  | none =>
    rw [written?, hat]
    cases hfind : s.tree.find path with
    | ok entry =>
      rw [FileTree.at?, hfind] at hat
      cases hat
    | error fault =>
      rw [readFile, FaultyTree.perform_bind, FaultyTree.perform_file, run_readText,
        FaultyTree.run_stream_of_calm h, hfind]
      rfl

/-! ## Creating -/

/-- A file of the defaults in a folder that is there. -/
theorem writeDefaults_cases {result : Except Problem Unit}
    (h : perform (Attempt.file (.write path) (Disk.createFile path) >>= fun _ =>
      Attempt.file (.write path) (Disk.append path (Text.bytes defaultText))) s = (result, s')) :
    s'.tree = s.tree ∨
      ∃ stored, stored <+: Text.bytes defaultText ∧ s'.tree.at? path = some (.file stored) := by
  rw [FaultyTree.perform_bind] at h
  rcases hcreate : perform (Attempt.file (.write path) (Disk.createFile path)) s with
    ⟨problem | _, middle⟩
  · rw [hcreate] at h
    cases h
    obtain ⟨fault, hrun⟩ := FaultyTree.perform_file_eq_error hcreate
    obtain rfl : s' = s.passed := FaultyTree.run_attempt_eq_error hrun
    exact .inl rfl
  · rw [hcreate] at h
    dsimp only at h
    rw [FaultyTree.perform_file] at h
    obtain ⟨-, rfl⟩ := Prod.mk.inj h
    have hempty := FaultyTree.at?_of_createFile (FaultyTree.perform_file_eq_ok_iff.mp hcreate)
    obtain ⟨stored, hprefix, hstored, -⟩ :=
      FaultyTree.append_stores (Text.bytes defaultText) hempty
    exact .inr ⟨stored, hprefix, hstored⟩

theorem foldersAdded_of_createFolders {task : FileTask} {folder : String}
    {result : Except Problem Unit}
    (h : perform (Attempt.file task (Disk.createFolders folder)) s = (result, s')) :
    FoldersAdded s.tree s'.tree := by
  have hkeeps : Keeps (fun after => FoldersAdded s.tree after.tree)
      (Attempt.file task (Disk.createFolders folder) : Attempt (StateM FaultyTree) Unit).run :=
    .file (.createFoldersFrom fun _ _ => ⟨fun _ hs => hs, fun _ _ hs hf => hs.createFolder hf⟩)
  exact hkeeps.perform (.refl s.tree) h

/-- **An attempt to create a file of the defaults** leaves new folders, or the first bytes of such a
file. -/
theorem createFile_cases {result : Except Problem Unit}
    (h : perform (createFile path) s = (result, s')) : FoldersAdded s.tree s'.tree ∨
      ∃ stored, stored <+: Text.bytes defaultText ∧ s'.tree.at? path = some (.file stored) := by
  unfold createFile at h
  cases hparent : Disk.Place.parent? path with
  | none =>
    rw [hparent] at h
    rcases writeDefaults_cases h with hsame | hstored
    · rw [hsame]
      exact .inl (.refl s.tree)
    · exact .inr hstored
  | some folder =>
    rw [hparent] at h
    dsimp only at h
    rw [FaultyTree.perform_bind] at h
    rcases hfolders : perform (Attempt.file (.create folder) (Disk.createFolders folder)) s with
      ⟨problem | _, middle⟩
    · rw [hfolders] at h
      cases h
      exact .inl (foldersAdded_of_createFolders hfolders)
    · rw [hfolders] at h
      rcases writeDefaults_cases h with hsame | hstored
      · rw [hsame]
        exact .inl (foldersAdded_of_createFolders hfolders)
      · exact .inr hstored

/-! ## Loading -/

theorem perform_isThere : perform (liftM (Disk.isThere path : StateM FaultyTree Bool)) s =
    (.ok (s.tree.at? path).isSome, s) := rfl

theorem perform_loadAt_of_none (h : s.tree.at? path = none) : perform (loadAt path) s =
    match perform (createFile path) s with
    | (.ok (), s') => (.ok {}, s')
    | (.error problem, s') => (.error problem, s') := by
  rw [loadAt, FaultyTree.perform_bind, perform_isThere, h]
  change perform (createFile path >>= fun _ => pure ({} : Preferences)) s = _
  rw [FaultyTree.perform_bind]
  rcases perform (createFile path) s with ⟨problem | _, s'⟩ <;> rfl

/-- A file that is there is read. Else the defaults are loaded, whatever comes of the attempt to
create a file of them. -/
theorem perform_loadOrDefaultAt : perform (loadOrDefaultAt path) s =
    if (s.tree.at? path).isSome then perform (readFile path) s
    else (.ok {}, (perform (createFile path) s).2) := by
  rw [loadOrDefaultAt, FaultyTree.perform_bind, perform_isThere]
  dsimp only
  cases hthere : s.tree.at? path with
  | some entry => rfl
  | none =>
    change perform (tryCatch (loadAt path) fun _ => pure {}) s = (.ok {}, _)
    rw [FaultyTree.perform_tryCatch, perform_loadAt_of_none hthere]
    rcases perform (createFile path) s with ⟨problem | _, s'⟩ <;> rfl

theorem loadOrDefaultAt_of_none (h : s.tree.at? path = none) :
    perform (loadOrDefaultAt path) s = (.ok {}, (perform (createFile path) s).2) := by
  rw [perform_loadOrDefaultAt, h]
  rfl

theorem loadOrDefaultAt_of_some {entry : FileEntry} (h : s.tree.at? path = some entry) :
    perform (loadOrDefaultAt path) s = perform (readFile path) s := by
  rw [perform_loadOrDefaultAt, h]
  rfl

/-- **When a second load agrees with the first one**, whatever failed in the first one and with no
fault in the second one. It does so if there was a file to read, or if there still is nothing. Else
the first load has left something where there was nothing, and the second load reads that: it must
write the defaults. What is left may be a folder, the first bytes of a file of the defaults, or a
file that was only out of reach because a folder on the way was missing. -/
theorem loadOrDefaultAt_again_iff {fates : List Fate} {after : FaultyTree}
    (h : perform (loadOrDefaultAt path) (FaultyTree.start tree fates) = (.ok prefs, after)) :
    ((perform (loadOrDefaultAt path) (FaultyTree.start after.tree [])).1.toOption = some prefs ↔
      tree.at? path ≠ none ∨ after.tree.at? path = none ∨
        written? after.tree path = some {}) ∧
    (tree.at? path = none → prefs = {} ∧
      ∀ content, after.tree.at? path = some (.file content) →
        content <+: Text.bytes defaultText ∨
          tree.entry? (tree.nameOf path) = some (.file content)) := by
  cases hthere : tree.at? path with
  | some entry =>
    rw [loadOrDefaultAt_of_some (s := FaultyTree.start tree fates) hthere] at h
    obtain ⟨hprefs, rfl⟩ := perform_readFile h
    refine ⟨iff_of_true ?_ (.inl nofun), nofun⟩
    change (perform (loadOrDefaultAt path) (FaultyTree.start tree [])).1.toOption = _
    rw [loadOrDefaultAt_of_some (s := FaultyTree.start tree []) hthere,
      perform_readFile_of_calm rfl]
    exact hprefs
  | none =>
    rw [loadOrDefaultAt_of_none (s := FaultyTree.start tree fates) hthere] at h
    generalize hcreate : perform (createFile path) (FaultyTree.start tree fates) = reached at h
    obtain ⟨result, last⟩ := reached
    obtain ⟨hprefs, hlast⟩ := Prod.mk.inj h
    obtain rfl : {} = prefs := Except.ok.inj hprefs
    obtain rfl : last = after := hlast
    constructor
    · cases hafter : last.tree.at? path with
      | none =>
        rw [loadOrDefaultAt_of_none (s := FaultyTree.start last.tree []) hafter]
        exact iff_of_true rfl (.inr (.inl rfl))
      | some entry =>
        rw [loadOrDefaultAt_of_some (s := FaultyTree.start last.tree []) hafter,
          perform_readFile_of_calm rfl]
        refine ⟨fun hread => .inr (.inr hread), ?_⟩
        rintro (hne | hnone | hread)
        · exact absurd rfl hne
        · cases hnone
        · exact hread
    · refine fun _ => ⟨rfl, fun content hcontent => ?_⟩
      rcases createFile_cases hcreate with hadded | ⟨stored, hprefix, hstored⟩
      · exact .inr (hadded.entry_of_at? hcontent)
      · rw [hstored] at hcontent
        cases hcontent
        exact .inl hprefix

/-- A first load in an empty folder leaves a file that a second load agrees with. -/
theorem loadOrDefaultAt_again_empty :
    let after := (perform (loadOrDefaultAt "config.toml") (FaultyTree.start ⟨[], []⟩ [])).2
    (perform (loadOrDefaultAt "config.toml") (FaultyTree.start after.tree [])).1.toOption =
      some {} := by
  have hfirst : (perform (loadOrDefaultAt "config.toml") (FaultyTree.start ⟨[], []⟩ [])).1 =
      .ok {} := toOption_eq_some_iff.mp (by decide +kernel)
  exact (loadOrDefaultAt_again_iff (Prod.ext hfirst rfl)).1.mpr (.inr (.inr (by decide +kernel)))

/-- Two loads that disagree. On a full disk the first one loads the defaults and leaves an empty
file, which the second one cannot read. A place that is a folder above itself fails in the same way
without any fault. -/
theorem loadOrDefaultAt_disagrees :
    let full : Fate := { fault := fun operation =>
      if operation = .append then some (.other (some 28) "No space left on device") else none }
    let first := perform (loadOrDefaultAt "config.toml") (FaultyTree.start ⟨[], []⟩ [{}, full])
    let calm := perform (loadOrDefaultAt "a/../a") (FaultyTree.start ⟨[], []⟩ [])
    first.1.toOption = some {} ∧
    (perform (loadOrDefaultAt "config.toml") (FaultyTree.start first.2.tree [])).1.toOption =
      none ∧
    calm.1.toOption = some {} ∧
    (perform (loadOrDefaultAt "a/../a") (FaultyTree.start calm.2.tree [])).1.toOption = none := by
  decide +kernel

end SessionReplay.Preferences
