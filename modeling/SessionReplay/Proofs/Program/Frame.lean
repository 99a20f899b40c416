import SessionReplay.CaptureFile
import SessionReplay.Proofs.Preferences.Fallback

/-!
# What a run touches before it writes a script

* `UserFolders.ownFile?` — the place of a file that the program keeps for itself;
* `FileTree.above` — the names of a place and of the folders above it;
* `UserFolders.ownNames` — the names of the settings file, of the log, and of their folders;
* `parent?_join_join`: the folder of such a file is the one that the program creates;
* `Program.Covers` — some names are all that such a file takes up;
* **`keeps_place`, `keeps_loadOrDefault`, `keeps_convertFile`**: such a file changes nothing but
  these names, and reading a session changes nothing.
-/

namespace SessionReplay

open FileTree (ChangedOnly)
open FaultyTree (perform Keeps Stable)

variable {tree : FileTree} {s s' : FaultyTree} {names : Set FileName} {path name : String}

/-! ## Names -/

/-- The names of a place and of the folders above it. -/
def FileTree.above (tree : FileTree) (path : String) : Set FileName :=
  {name | ∃ place ∈ Disk.Place.lineage path, name = tree.nameOf place}

namespace UserFolders

/-- The place of a file that the program keeps for itself in a folder of the user. -/
def ownFile? (folder : Option String) (name : String) : Option String :=
  folder.map fun folder => Disk.Place.join (Disk.Place.join folder programName) name

/-- The names of the settings file and of the log, and of the folders above them. -/
def ownNames (folders : UserFolders) (tree : FileTree) : Set FileName :=
  {name | ∃ file, (file ∈ ownFile? (folders.chosen folders.config ".config") "config.toml" ∨
    file ∈ ownFile? (folders.chosen folders.state ".local/state") (programName ++ ".log")) ∧
    name ∈ tree.above file}

/-- A name that is one step and more than a dot. -/
structure PlainName (name : String) : Prop where
  slash : '/' ∉ name.toList
  length : 1 < name.length

theorem PlainName.isAbsolute (h : PlainName name) : Disk.Place.isAbsolute name = false := by
  rw [← Bool.not_eq_true, Disk.Place.isAbsolute_iff]
  exact fun hhead => h.slash (List.mem_of_head? hhead)

theorem plainName_programName : PlainName programName := ⟨by decide +kernel, by decide +kernel⟩

theorem plainName_config : PlainName "config.toml" := ⟨by decide +kernel, by decide +kernel⟩

theorem plainName_log : PlainName (programName ++ ".log") :=
  ⟨by decide +kernel, by decide +kernel⟩

theorem exists_join_programName (folder : String) :
    ∃ front, Disk.Place.join folder programName = front ++ programName := by
  rw [Disk.Place.join, plainName_programName.isAbsolute, if_neg nofun]
  split_ifs
  · exact ⟨folder, rfl⟩
  · exact ⟨folder ++ "/", rfl⟩

/-- The folder of the program ends in a name of its own. -/
theorem exists_names_join (folder : String) : ∃ init last,
    Disk.Place.names (Disk.Place.join folder programName) = init ++ [last] ∧ 1 < last.length := by
  obtain ⟨front, hfront⟩ := exists_join_programName folder
  obtain ⟨init, last, -, hnames⟩ := Disk.Place.names_append front plainName_programName.slash
  refine ⟨init, last ++ programName, by rw [hfront, hnames], ?_⟩
  rw [String.length_append]
  exact Nat.lt_of_lt_of_le plainName_programName.length (Nat.le_add_left _ _)

/-- A file of the program stands behind a slash. -/
theorem join_join (folder : String) (h : Disk.Place.isAbsolute name = false) :
    Disk.Place.join (Disk.Place.join folder programName) name =
      Disk.Place.join folder programName ++ "/" ++ name := by
  obtain ⟨front, hfront⟩ := exists_join_programName folder
  have hempty : ¬ (front ++ programName).isEmpty = true := by
    rw [String.isEmpty_iff, String.append_eq_empty_iff]
    exact fun h => absurd h.2 (by decide +kernel)
  rw [hfront, Disk.Place.join, if_neg (by rw [h]; nofun), if_neg]
  rw [Disk.Place.endsWith_slash_append plainName_programName.slash (by decide +kernel)]
  exact not_or.mpr ⟨hempty, nofun⟩

/-- **The folder of a file of the program** is the one that the program creates. -/
theorem parent?_join_join (folder : String) (h : PlainName name) :
    Disk.Place.parent? (Disk.Place.join (Disk.Place.join folder programName) name) =
      some (Disk.Place.join folder programName) := by
  obtain ⟨init, last, hnames, hlast⟩ := exists_names_join folder
  rw [join_join folder h.isAbsolute]
  exact Disk.Place.parent?_slash hnames hlast h.slash h.length

theorem lineage_join_subset (folder : String) (h : PlainName name) :
    Disk.Place.lineage (Disk.Place.join folder programName) ⊆
      Disk.Place.lineage (Disk.Place.join (Disk.Place.join folder programName) name) := by
  refine Disk.Place.lineage_subset (parent?_join_join folder h) ?_
  rw [join_join folder h.isAbsolute, String.length_append, String.length_append]
  have := h.length
  omega

end UserFolders

namespace Program

variable {folders : UserFolders} {folder? : Option String}

/-! ## What changes -/

/-- At most the given names have changed. -/
abbrev Within (names : Set FileName) (tree : FileTree) (s : FaultyTree) : Prop :=
  ChangedOnly names tree s.tree

theorem stable_createFolder (h : tree.nameOf path ∈ names) :
    Stable (Within names tree) (·.createFolder path) :=
  ⟨fun _ hs => hs, fun _ _ hs hf => hs.createFolder h hf⟩

theorem stable_createFile (h : tree.nameOf path ∈ names) :
    Stable (Within names tree) (·.createFile path) :=
  ⟨fun _ hs => hs, fun _ _ hs hf => hs.createFile h hf⟩

theorem stable_append {bytes : List UInt8} (h : tree.nameOf path ∈ names) :
    Stable (Within names tree) (·.append path bytes) :=
  ⟨fun _ hs => hs, fun _ _ hs hf => hs.append h hf⟩

/-- Some names are all that a file of the program takes up. -/
def Covers (tree : FileTree) (folder : Option String) (name : String) (names : Set FileName) :
    Prop :=
  ∀ file ∈ UserFolders.ownFile? folder name, tree.above file ⊆ names

theorem keeps_place (h : Covers tree folder? name names) (hname : UserFolders.PlainName name) :
    Keeps (Within names tree)
      (UserFolders.place folder? name : Attempt (StateM FaultyTree) String).run := by
  cases folder? with
  | none => exact .pure _
  | some folder =>
    refine (Keeps.file (.createFoldersFrom fun place hplace => ?_)).andThen fun _ => .pure _
    refine stable_createFolder (h _ rfl ⟨place, ?_, rfl⟩)
    exact UserFolders.lineage_join_subset folder hname hplace

theorem perform_place_ok (h : perform (UserFolders.place folder? name) s = (.ok path, s')) :
    path ∈ UserFolders.ownFile? folder? name := by
  cases folder? with
  | none => cases h
  | some folder =>
    obtain ⟨_, _, -, hpath⟩ := FaultyTree.perform_bind_eq_ok_iff.mp h
    cases hpath
    rfl

theorem keeps_readFile : Keeps (Within names tree)
    (Preferences.readFile path : Attempt (StateM FaultyTree) Preferences).run :=
  (Keeps.file ((Keeps.stream fun _ hs => hs).bind fun _ => .pure _)).andThen fun _ => .ofExcept

theorem keeps_createFile (h : Covers tree folder? name names) (hname : UserFolders.PlainName name)
    (hpath : path ∈ UserFolders.ownFile? folder? name) :
    Keeps (Within names tree)
      (Preferences.createFile path : Attempt (StateM FaultyTree) Unit).run := by
  have hnames := h path hpath
  obtain ⟨folder, rfl, rfl⟩ := Option.map_eq_some_iff.mp hpath
  have hself := hnames ⟨_, Disk.Place.mem_lineage_self, rfl⟩
  rw [Preferences.createFile, UserFolders.parent?_join_join folder hname]
  refine (Keeps.file (.createFoldersFrom fun place hplace => ?_)).andThen fun _ => ?_
  · exact stable_createFolder
      (hnames ⟨place, UserFolders.lineage_join_subset folder hname hplace, rfl⟩)
  · exact (Keeps.file (.attempt (stable_createFile hself))).andThen fun _ =>
      .file (.append fun _ => stable_append hself)

theorem keeps_loadAt (h : Covers tree folder? name names) (hname : UserFolders.PlainName name)
    (hpath : path ∈ UserFolders.ownFile? folder? name) :
    Keeps (Within names tree)
      (Preferences.loadAt path : Attempt (StateM FaultyTree) Preferences).run := by
  refine (Keeps.lift (.look _)).andThen fun there => ?_
  cases there with
  | true => exact keeps_readFile
  | false => exact (keeps_createFile h hname hpath).andThen fun _ => .pure _

theorem keeps_loadOrDefaultAt (h : Covers tree folder? name names)
    (hname : UserFolders.PlainName name) (hpath : path ∈ UserFolders.ownFile? folder? name) :
    Keeps (Within names tree)
      (Preferences.loadOrDefaultAt path : Attempt (StateM FaultyTree) Preferences).run := by
  refine (Keeps.lift (.look _)).andThen fun there => ?_
  cases there with
  | true => exact keeps_readFile
  | false => exact (keeps_loadAt h hname hpath).tryCatch fun _ => .pure _

theorem keeps_loadOrDefault
    (h : Covers tree (folders.chosen folders.config ".config") "config.toml" names) :
    Keeps (Within names tree)
      (Preferences.loadOrDefault folders : Attempt (StateM FaultyTree) Preferences).run := by
  intro s hs
  change Within names tree (perform (Preferences.loadOrDefault folders) s).2
  have hplace := keeps_place h UserFolders.plainName_config
  rw [Preferences.loadOrDefault, FaultyTree.perform_bind, FaultyTree.perform_optional]
  rcases hfile : perform folders.configFile s with ⟨problem | path, middle⟩
  · exact hplace.perform hs hfile
  · exact keeps_loadOrDefaultAt h UserFolders.plainName_config (perform_place_ok hfile) middle
      (hplace.perform hs hfile)

theorem keeps_convertFile {settings : Settings} : Keeps (Within names tree)
    (CaptureFile.convert path settings : Attempt (StateM FaultyTree) String).run :=
  ((Keeps.file (.stream fun _ hs => hs)).andThen fun _ => .ofExcept).andThen fun _ => .ofExcept

end Program

end SessionReplay
