import Mathlib.Data.Set.Insert
import SessionReplay.Disk.Tree
import SessionReplay.Proofs.Disk.Place
import SessionReplay.Proofs.Outcome

/-!
# Names and changes of a file tree

* `entry?_put_self`, `entry?_put_of_ne`, `entry?_erase_self`, `entry?_erase_of_ne`: what a change
  of one name does;
* `FileTree.nameOf` — the full name that a place stands for, whether or not it is there;
* `FileTree.at?` — what is at a place;
* `FileTree.SameFolders` — two trees have the same folders, so that places mean the same;
* `FileTree.ChangedOnly` — two trees differ at some names only;
* `FileTree.nameOf_append_ne`: a longer last name is another name;
* `SameFolders.locate_iff`, `SameFolders.at?_eq`: what a place means depends on the folders, and
  what is there on its name besides;
* `FileTree.Writable` — a place at which a file can stand;
* `createFile_eq_ok`, `append_eq_ok`, `rename_eq_ok`, `remove_eq_ok_iff`: **what each change of a
  file does**;
* `FileTree.FoldersAdded` — one tree has folders besides all that is in the other one;
* `Writable.at?_put`, `append_of_at?`, `erase_of_at?`, `rename_of_at?`: what is at places behind
  changes, and that a change of a file leaves all folders as they are.
-/

namespace SessionReplay.FileTree

open Disk (Fault)

variable {tree tree' tree'' : FileTree} {name other : FileName} {entry : FileEntry}
  {path : String} {folder next : FileName} {names : List String} {target : Target}
  {changed : Set FileName}

/-! ## Entries -/

theorem lookup_filter_ne {entries : List (FileName × FileEntry)} (h : other ≠ name) :
    (entries.filter fun entry => entry.1 ≠ name).lookup other = entries.lookup other := by
  induction entries with
  | nil => rfl
  | cons first entries ih =>
    rw [List.filter_cons, List.lookup_cons]
    split_ifs with hfirst
    · rw [List.lookup_cons, ih]
    · have heq : first.1 = name := by simpa using hfirst
      rw [heq, beq_eq_false_iff_ne.mpr h, ih]

theorem lookup_filter_self {entries : List (FileName × FileEntry)} :
    (entries.filter fun entry => entry.1 ≠ name).lookup name = none := by
  rw [List.lookup_eq_none_iff]
  intro entry hentry
  have hne := (List.mem_filter.mp hentry).2
  rw [decide_eq_true_eq] at hne
  exact bne_iff_ne.mpr hne.symm

@[simp]
theorem entry?_put_self (h : name ≠ []) : FileTree.entry? (tree.put name entry) name = some entry := by
  rw [ entry?, if_neg h, put, List.lookup_cons_self]

theorem entry?_put_of_ne (h : other ≠ name) :
    FileTree.entry? (tree.put name entry) other = tree.entry? other := by
  unfold entry?
  split_ifs with hroot
  · rfl
  · rw [put, List.lookup_cons, beq_eq_false_iff_ne.mpr h, erase, lookup_filter_ne h]

@[simp]
theorem entry?_erase_self (h : name ≠ []) : FileTree.entry? (tree.erase name) name = none := by
  rw [ entry?, if_neg h, erase, lookup_filter_self]

theorem entry?_erase_of_ne (h : other ≠ name) :
    FileTree.entry? (tree.erase name) other = tree.entry? other := by
  unfold entry?
  split_ifs with hroot
  · rfl
  · rw [erase, lookup_filter_ne h]

/-! ## Names of places -/

/-- The names of a place, one for each step. -/
def steps (path : String) : List String :=
  (Disk.Place.names path).filter fun name => !name.isEmpty

/-- The folder from which a place is counted. -/
def base (tree : FileTree) (path : String) : FileName :=
  if Disk.Place.isAbsolute path then [] else tree.here

/-- The name that a step leads to. -/
def enter (folder : FileName) (name : String) : FileName :=
  if name = "." then folder else if name = ".." then folder.dropLast else folder ++ [name]

/-- The full name that a place stands for, if the folders on the way are there. -/
def nameOf (tree : FileTree) (path : String) : FileName :=
  (steps path).foldl enter (tree.base path)

theorem nameOf_congr (h : tree'.here = tree.here) : tree'.nameOf path = tree.nameOf path := by
  rw [nameOf, nameOf, base, base, h]

theorem step_eq_ok_iff {step : String} : tree.step folder step = .ok next ↔
    next = enter folder step ∧
      (step = "." ∨ step = ".." ∨ tree.entry? (folder ++ [step]) = some .folder) := by
  unfold FileTree.step enter
  split_ifs with hdot hdots
  · simp [hdot, eq_comm]
  · simp [hdots, eq_comm]
  · cases tree.entry? (folder ++ [step]) with
    | none => simp [hdot, hdots]
    | some entry => cases entry <;> simp [hdot, hdots, eq_comm]

theorem walk_cons {step : String} : tree.walk folder (step :: names) =
    tree.step folder step >>= fun next => tree.walk next names :=
  List.foldlM_cons

theorem foldl_of_walk (h : tree.walk folder names = .ok next) :
    next = names.foldl enter folder := by
  induction names generalizing folder with
  | nil => exact (Except.ok.inj h).symm
  | cons step names ih =>
    rw [walk_cons, bind_eq_ok_iff] at h
    obtain ⟨first, hfirst, hrest⟩ := h
    rw [List.foldl_cons, ← (step_eq_ok_iff.mp hfirst).1]
    exact ih hrest

/-- A place means a folder that its last step leads to, or a name in the folder before it. -/
theorem locate_eq_ok_iff : tree.locate path = .ok target ↔ path ≠ "" ∧ ∃ folder,
    tree.walk (tree.base path) (steps path).dropLast = .ok folder ∧
      match (steps path).getLast? with
      | none => target = .folder folder
      | some name =>
        if name = "." ∨ name = ".." then
          ∃ next, tree.step folder name = .ok next ∧ target = .folder next
        else target = .entry (folder ++ [name]) (path.endsWith "/") := by
  unfold locate
  by_cases hempty : path = ""
  · simp [hempty, bind, Except.bind, throw, throwThe, MonadExceptOf.throw]
  · rw [if_neg (by simpa using hempty), and_iff_right hempty]
    simp only [bind_eq_ok_iff]
    refine exists_congr fun folder => and_congr Iff.rfl ?_
    change (match (steps path).getLast? with | none => _ | some name => _) = _ ↔ _
    cases (steps path).getLast? with
    | none => rw [pure_eq_ok_iff, eq_comm]
    | some name =>
      dsimp only
      split_ifs
      · rw [bind_eq_ok_iff]
        exact exists_congr fun next => and_congr Iff.rfl (pure_eq_ok_iff.trans eq_comm)
      · rw [pure_eq_ok_iff, eq_comm]

/-- What a place means has the name that the place stands for. -/
theorem name_of_locate (h : tree.locate path = .ok target) : target.name = tree.nameOf path := by
  obtain ⟨-, folder, hwalk, htarget⟩ := locate_eq_ok_iff.mp h
  cases hlast : (steps path).getLast? with
  | none =>
    rw [hlast] at htarget
    rw [htarget, nameOf]
    rw [List.getLast?_eq_none_iff.mp hlast] at hwalk ⊢
    exact foldl_of_walk hwalk
  | some name =>
    rw [hlast] at htarget
    obtain ⟨init, hsteps⟩ := List.getLast?_eq_some_iff.mp hlast
    rw [hsteps, List.dropLast_concat] at hwalk
    have hnameOf : tree.nameOf path = enter folder name := by
      rw [nameOf, hsteps, List.foldl_append, ← foldl_of_walk hwalk]
      rfl
    rw [hnameOf]
    dsimp only at htarget
    split_ifs at htarget with hdots
    · obtain ⟨next, hstep, rfl⟩ := htarget
      exact (step_eq_ok_iff.mp hstep).1
    · rw [htarget, enter, if_neg fun h => hdots (.inl h), if_neg fun h => hdots (.inr h)]
      rfl

theorem ne_nil_of_locate {slash : Bool} (h : tree.locate path = .ok (.entry name slash)) :
    name ≠ [] := by
  obtain ⟨-, folder, -, htarget⟩ := locate_eq_ok_iff.mp h
  split at htarget
  · cases htarget
  · split_ifs at htarget
    · obtain ⟨_, -, heq⟩ := htarget
      cases heq
    · cases htarget
      simp

theorem enter_of_length {last : String} (h : 2 < last.length) :
    enter folder last = folder ++ [last] := by
  rw [enter, if_neg, if_neg]
  · rintro rfl
    exact absurd h (by decide)
  · rintro rfl
    exact absurd h (by decide)

/-- The last name of a place is a step, unless the place ends in a slash. -/
theorem nameOf_of_names {init : List String} {last : String}
    (h : Disk.Place.names path = init ++ [last]) : tree.nameOf path =
      let folder := (init.filter fun name => !name.isEmpty).foldl enter (tree.base path)
      if last.isEmpty then folder else enter folder last := by
  rw [nameOf, steps, h, List.filter_append, List.foldl_append, List.filter_cons]
  cases last.isEmpty <;> rfl

/-- **A longer last name is another name.** The shorter place may end in a name of its own, in a
slash, or in dots. -/
theorem nameOf_append_ne {suffix : String} (hslash : '/' ∉ suffix.toList)
    (hlength : 2 < suffix.length) : tree.nameOf (path ++ suffix) ≠ tree.nameOf path := by
  obtain ⟨init, last, hpath, happend⟩ := Disk.Place.names_append path hslash
  have hlong : 2 < (last ++ suffix).length := by
    rw [String.length_append]
    omega
  have hnotEmpty : ¬ (last ++ suffix).isEmpty = true := by
    rw [String.isEmpty_iff]
    intro h
    rw [h] at hlong
    exact absurd hlong (by decide)
  have hbase : tree.base (path ++ suffix) = tree.base path := by
    rw [base, base, Disk.Place.isAbsolute_append hslash]
  rw [nameOf_of_names hpath, nameOf_of_names happend, hbase]
  generalize (init.filter fun name => !name.isEmpty).foldl enter (tree.base path) = folder
  dsimp only
  rw [if_neg hnotEmpty, enter_of_length hlong, enter]
  -- the shorter place stands for the folder, for the one above it, or for another name in it
  split_ifs with hempty hdot hdots
  · simp
  · simp
  · intro heq
    have hlengths := congrArg List.length heq
    rw [List.length_append, List.length_singleton, List.length_dropLast] at hlengths
    omega
  · intro heq
    have hlengths := congrArg String.length (List.singleton_inj.mp (List.append_cancel_left heq))
    rw [String.length_append] at hlengths
    omega

/-! ## What is at a place -/

/-- What is at a place. -/
def at? (tree : FileTree) (path : String) : Option FileEntry :=
  (tree.find path).toOption

theorem at?_of_error {fault : Fault} (h : tree.locate path = .error fault) :
    tree.at? path = none := by
  rw [at?, find, h]
  rfl

theorem at?_of_folder (h : tree.locate path = .ok (.folder name)) :
    tree.at? path = some .folder := by
  rw [at?, find, h]
  rfl

/-- A slash behind the name of a file leads nowhere. -/
theorem at?_of_entry {slash : Bool} (h : tree.locate path = .ok (.entry name slash)) :
    tree.at? path = (tree.entry? name).filter fun entry => !slash || entry = .folder := by
  rw [at?, find, h]
  dsimp only [bind, Except.bind]
  cases tree.entry? name with
  | none => rfl
  | some entry =>
    cases entry with
    | folder => cases slash <;> rfl
    | file content => cases slash <;> rfl

/-- Two trees have the same folders, and the same working folder. -/
structure SameFolders (tree tree' : FileTree) : Prop where
  here : tree'.here = tree.here
  folder : ∀ name, tree'.entry? name = some .folder ↔ tree.entry? name = some .folder

namespace SameFolders

theorem refl (tree : FileTree) : SameFolders tree tree := ⟨rfl, fun _ => Iff.rfl⟩

theorem trans (h : SameFolders tree tree') (h' : SameFolders tree' tree'') :
    SameFolders tree tree'' :=
  ⟨h'.here.trans h.here, fun name => (h'.folder name).trans (h.folder name)⟩

theorem step_iff {step : String} (h : SameFolders tree tree') :
    tree'.step folder step = .ok next ↔ tree.step folder step = .ok next := by
  rw [step_eq_ok_iff, step_eq_ok_iff, h.folder]

theorem walk_iff (h : SameFolders tree tree') :
    tree'.walk folder names = .ok next ↔ tree.walk folder names = .ok next := by
  induction names generalizing folder with
  | nil => exact Iff.rfl
  | cons step names ih => simp only [walk_cons, bind_eq_ok_iff, h.step_iff, ih]

theorem locate_iff (h : SameFolders tree tree') :
    tree'.locate path = .ok target ↔ tree.locate path = .ok target := by
  simp only [locate_eq_ok_iff, h.walk_iff, h.step_iff, base, h.here]

/-- **What is at a place** depends on the folders, and on what stands under its name. -/
theorem at?_eq (h : SameFolders tree tree')
    (hentry : tree'.entry? (tree.nameOf path) = tree.entry? (tree.nameOf path)) :
    tree'.at? path = tree.at? path := by
  cases hlocate : tree.locate path with
  | error fault =>
    cases hlocate' : tree'.locate path with
    | error fault' => rw [at?_of_error hlocate, at?_of_error hlocate']
    | ok target =>
      rw [h.locate_iff.mp hlocate'] at hlocate
      cases hlocate
  | ok target =>
    have hlocate' := h.locate_iff.mpr hlocate
    cases target with
    | folder name => rw [at?_of_folder hlocate, at?_of_folder hlocate']
    | entry name slash =>
      rw [at?_of_entry hlocate, at?_of_entry hlocate']
      obtain rfl : name = tree.nameOf path := name_of_locate hlocate
      rw [hentry]

end SameFolders

theorem at?_eq_some_file_iff {content : List UInt8} : tree.at? path = some (.file content) ↔
    tree.locate path = .ok (.entry (tree.nameOf path) false) ∧
      tree.entry? (tree.nameOf path) = some (.file content) := by
  cases hlocate : tree.locate path with
  | error fault => simp [at?_of_error hlocate]
  | ok target =>
    cases target with
    | folder name => simp [at?_of_folder hlocate]
    | entry name slash =>
      obtain rfl : name = tree.nameOf path := name_of_locate hlocate
      cases slash <;> simp [at?_of_entry hlocate, Option.filter_eq_some_iff]

/-! ## Changes of names -/

/-- Two trees differ at some names at most. -/
structure ChangedOnly (names : Set FileName) (tree tree' : FileTree) : Prop where
  here : tree'.here = tree.here
  entry : ∀ name ∉ names, tree'.entry? name = tree.entry? name

namespace ChangedOnly

variable {few more : Set FileName}

theorem refl (names : Set FileName) (tree : FileTree) : ChangedOnly names tree tree :=
  ⟨rfl, fun _ _ => rfl⟩

theorem trans (h : ChangedOnly few tree tree') (h' : ChangedOnly few tree' tree'') :
    ChangedOnly few tree tree'' :=
  ⟨h'.here.trans h.here, fun name hname => (h'.entry name hname).trans (h.entry name hname)⟩

theorem mono (hsub : few ⊆ more) (h : ChangedOnly few tree tree') :
    ChangedOnly more tree tree' :=
  ⟨h.here, fun name hname => h.entry name fun hmem => hname (hsub hmem)⟩

theorem put : ChangedOnly {name} tree (tree.put name entry) :=
  ⟨rfl, fun _ hother => entry?_put_of_ne hother⟩

theorem erase : ChangedOnly {name} tree (tree.erase name) :=
  ⟨rfl, fun _ hother => entry?_erase_of_ne hother⟩

end ChangedOnly

/-- A file in place of no folder leaves the folders as they are. -/
theorem sameFolders_put {content : List UInt8} (hname : name ≠ [])
    (h : tree.entry? name ≠ some .folder) : SameFolders tree (tree.put name (.file content)) := by
  refine ⟨rfl, fun other => ?_⟩
  by_cases hother : other = name
  · rw [hother, entry?_put_self hname]
    exact iff_of_false nofun h
  · rw [entry?_put_of_ne hother]

theorem sameFolders_erase (hname : name ≠ []) (h : tree.entry? name ≠ some .folder) :
    SameFolders tree (tree.erase name) := by
  refine ⟨rfl, fun other => ?_⟩
  by_cases hother : other = name
  · rw [hother, entry?_erase_self hname]
    exact iff_of_false nofun h
  · rw [entry?_erase_of_ne hother]

/-! ## Changes of files and folders -/

/-- A place at which a file can stand: a name in a folder, and no folder. -/
structure Writable (tree : FileTree) (path : String) : Prop where
  locate : tree.locate path = .ok (.entry (tree.nameOf path) false)
  notFolder : tree.entry? (tree.nameOf path) ≠ some .folder

namespace Writable

theorem ne_nil (h : tree.Writable path) : tree.nameOf path ≠ [] := ne_nil_of_locate h.locate

theorem sameFolders_put (h : tree.Writable path) (content : List UInt8) :
    SameFolders tree (tree.put (tree.nameOf path) (.file content)) :=
  FileTree.sameFolders_put h.ne_nil h.notFolder

end Writable

theorem writable_eq_ok {content : List UInt8} (h : tree.writable path = .ok (name, content)) :
    name = tree.nameOf path ∧ tree.Writable path ∧
      (tree.entry? name = none ∧ content = [] ∨ tree.entry? name = some (.file content)) := by
  rw [writable, bind_eq_ok_iff] at h
  obtain ⟨target, hlocate, htarget⟩ := h
  cases target with
  | folder _ => cases htarget
  | entry found slash =>
    obtain rfl : found = tree.nameOf path := name_of_locate hlocate
    cases slash with
    | true => cases htarget
    | false =>
      simp only [Bool.false_eq_true, if_false] at htarget
      cases hentry : tree.entry? (tree.nameOf path) with
      | none =>
        rw [hentry] at htarget
        cases htarget
        exact ⟨rfl, ⟨hlocate, by rw [hentry]; nofun⟩, .inl ⟨hentry, rfl⟩⟩
      | some entry =>
        rw [hentry] at htarget
        cases entry with
        | folder => cases htarget
        | file _ =>
          cases htarget
          exact ⟨rfl, ⟨hlocate, by rw [hentry]; nofun⟩, .inr hentry⟩

theorem fileAt_eq_ok_iff {content : List UInt8} : tree.fileAt path = .ok (name, content) ↔
    name = tree.nameOf path ∧ tree.at? path = some (.file content) := by
  rw [fileAt, bind_eq_ok_iff, at?_eq_some_file_iff]
  constructor
  · rintro ⟨target, hlocate, htarget⟩
    cases target with
    | folder _ => cases htarget
    | entry found slash =>
      obtain rfl : found = tree.nameOf path := name_of_locate hlocate
      dsimp only at htarget
      cases hentry : tree.entry? (tree.nameOf path) with
      | none =>
        rw [hentry] at htarget
        cases htarget
      | some entry =>
        rw [hentry] at htarget
        cases entry with
        | folder => cases htarget
        | file _ =>
          cases slash with
          | true => cases htarget
          | false =>
            cases htarget
            exact ⟨rfl, hlocate, rfl⟩
  · rintro ⟨rfl, hlocate, hentry⟩
    refine ⟨_, hlocate, ?_⟩
    dsimp only
    rw [hentry]
    rfl

theorem Writable.writable (h : tree.Writable path) :
    ∃ content, tree.writable path = .ok (tree.nameOf path, content) := by
  rw [FileTree.writable, h.locate]
  dsimp only [bind, Except.bind]
  cases hentry : tree.entry? (tree.nameOf path) with
  | none => exact ⟨[], rfl⟩
  | some entry =>
    cases entry with
    | folder => exact absurd hentry h.notFolder
    | file content => exact ⟨content, rfl⟩

theorem Writable.createFile (h : tree.Writable path) :
    tree.createFile path = .ok (tree.put (tree.nameOf path) (.file [])) := by
  obtain ⟨content, hwritable⟩ := h.writable
  rw [FileTree.createFile, hwritable]
  rfl

theorem createFolder_eq_ok (h : tree.createFolder path = .ok tree') :
    tree.nameOf path ≠ [] ∧ tree.entry? (tree.nameOf path) = none ∧
      tree' = tree.put (tree.nameOf path) .folder := by
  rw [createFolder, bind_eq_ok_iff] at h
  obtain ⟨target, hlocate, htarget⟩ := h
  cases target with
  | folder _ => cases htarget
  | entry found slash =>
    obtain rfl : found = tree.nameOf path := name_of_locate hlocate
    dsimp only at htarget
    split_ifs at htarget with hthere
    cases htarget
    exact ⟨ne_nil_of_locate hlocate, Option.not_isSome_iff_eq_none.mp hthere, rfl⟩

theorem createFile_eq_ok (h : tree.createFile path = .ok tree') :
    tree.Writable path ∧ tree' = tree.put (tree.nameOf path) (.file []) := by
  rw [createFile, bind_eq_ok_iff] at h
  obtain ⟨⟨name, content⟩, hwritable, hput⟩ := h
  obtain ⟨rfl, hpath, -⟩ := writable_eq_ok hwritable
  exact ⟨hpath, (Except.ok.inj hput).symm⟩

theorem append_eq_ok {bytes : List UInt8} (h : tree.append path bytes = .ok tree') :
    tree.Writable path ∧ ∃ content,
      (tree.entry? (tree.nameOf path) = none ∧ content = [] ∨
        tree.entry? (tree.nameOf path) = some (.file content)) ∧
      tree' = tree.put (tree.nameOf path) (.file (content ++ bytes)) := by
  rw [append, bind_eq_ok_iff] at h
  obtain ⟨⟨name, content⟩, hwritable, hput⟩ := h
  obtain ⟨rfl, hpath, hcontent⟩ := writable_eq_ok hwritable
  exact ⟨hpath, content, hcontent, (Except.ok.inj hput).symm⟩

theorem remove_eq_ok_iff : tree.remove path = .ok tree' ↔
    (∃ content, tree.at? path = some (.file content)) ∧ tree' = tree.erase (tree.nameOf path) := by
  rw [remove, bind_eq_ok_iff]
  constructor
  · rintro ⟨⟨name, content⟩, hfile, herase⟩
    obtain ⟨rfl, hcontent⟩ := fileAt_eq_ok_iff.mp hfile
    exact ⟨⟨content, hcontent⟩, (Except.ok.inj herase).symm⟩
  · rintro ⟨⟨content, hcontent⟩, rfl⟩
    exact ⟨_, fileAt_eq_ok_iff.mpr ⟨rfl, hcontent⟩, rfl⟩

theorem rename_eq_ok {source target : String} (h : tree.rename source target = .ok tree') :
    ∃ content, tree.at? source = some (.file content) ∧ tree.Writable target ∧
      tree' = (tree.erase (tree.nameOf source)).put (tree.nameOf target) (.file content) := by
  rw [rename, bind_eq_ok_iff] at h
  obtain ⟨⟨old, content⟩, hfile, h⟩ := h
  obtain ⟨rfl, hcontent⟩ := fileAt_eq_ok_iff.mp hfile
  rw [bind_eq_ok_iff] at h
  obtain ⟨place, hlocate, hplace⟩ := h
  cases place with
  | folder _ => cases hplace
  | entry new slash =>
    obtain rfl : new = tree.nameOf target := name_of_locate hlocate
    cases slash with
    | true => cases hplace
    | false =>
      simp only [Bool.false_eq_true, if_false] at hplace
      by_cases hfolder : tree.entry? (tree.nameOf target) = some .folder
      · rw [if_pos hfolder] at hplace
        cases hplace
      · rw [if_neg hfolder] at hplace
        exact ⟨content, hcontent, ⟨hlocate, hfolder⟩, (Except.ok.inj hplace).symm⟩

namespace ChangedOnly

theorem put_of_mem (h : ChangedOnly changed tree tree') (hname : tree.nameOf path ∈ changed) :
    ChangedOnly changed tree (tree'.put (tree'.nameOf path) entry) := by
  rw [nameOf_congr h.here]
  exact h.trans (put.mono (Set.singleton_subset_iff.mpr hname))

theorem createFolder (h : ChangedOnly changed tree tree') (hname : tree.nameOf path ∈ changed)
    (h' : tree'.createFolder path = .ok tree'') : ChangedOnly changed tree tree'' := by
  obtain ⟨-, -, rfl⟩ := createFolder_eq_ok h'
  exact h.put_of_mem hname

theorem createFile (h : ChangedOnly changed tree tree') (hname : tree.nameOf path ∈ changed)
    (h' : tree'.createFile path = .ok tree'') : ChangedOnly changed tree tree'' := by
  obtain ⟨-, rfl⟩ := createFile_eq_ok h'
  exact h.put_of_mem hname

theorem append {bytes : List UInt8} (h : ChangedOnly changed tree tree')
    (hname : tree.nameOf path ∈ changed) (h' : tree'.append path bytes = .ok tree'') :
    ChangedOnly changed tree tree'' := by
  obtain ⟨-, content, -, rfl⟩ := append_eq_ok h'
  exact h.put_of_mem hname

end ChangedOnly

theorem Writable.rename {source target : String} {content : List UInt8}
    (h : tree.Writable target) (hsource : tree.at? source = some (.file content)) :
    tree.rename source target =
      .ok ((tree.erase (tree.nameOf source)).put (tree.nameOf target) (.file content)) := by
  rw [FileTree.rename, fileAt_eq_ok_iff.mpr ⟨rfl, hsource⟩]
  dsimp only [bind, Except.bind]
  rw [h.locate]
  dsimp only
  rw [if_neg nofun, if_neg h.notFolder]
  rfl

/-! ## New folders -/

/-- One tree has folders besides all that is in the other one. -/
structure FoldersAdded (tree tree' : FileTree) : Prop where
  here : tree'.here = tree.here
  entry : ∀ name, tree'.entry? name = tree.entry? name ∨
    tree.entry? name = none ∧ tree'.entry? name = some .folder

namespace FoldersAdded

theorem refl (tree : FileTree) : FoldersAdded tree tree := ⟨rfl, fun _ => .inl rfl⟩

theorem createFolder (h : FoldersAdded tree tree') (h' : tree'.createFolder path = .ok tree'') :
    FoldersAdded tree tree'' := by
  obtain ⟨hname, hnone, rfl⟩ := createFolder_eq_ok h'
  refine ⟨h.here, fun name => ?_⟩
  by_cases hsame : name = tree'.nameOf path
  · subst hsame
    refine .inr ⟨?_, entry?_put_self hname⟩
    rcases h.entry (tree'.nameOf path) with hentry | ⟨hentry, -⟩
    · exact hentry.symm.trans hnone
    · exact hentry
  · rw [entry?_put_of_ne hsame]
    exact h.entry name

/-- A file that is found behind new folders is no new one. -/
theorem entry_of_at? {content : List UInt8} (h : FoldersAdded tree tree')
    (hfile : tree'.at? path = some (.file content)) :
    tree.entry? (tree.nameOf path) = some (.file content) := by
  obtain ⟨-, hentry⟩ := at?_eq_some_file_iff.mp hfile
  rw [nameOf_congr h.here] at hentry
  rcases h.entry (tree.nameOf path) with hsame | ⟨-, hfolder⟩
  · exact hsame.symm.trans hentry
  · rw [hfolder] at hentry
    cases hentry

end FoldersAdded

/-! ## Places behind changes -/

theorem Writable.at?_put (h : tree.Writable path) (content : List UInt8) :
    (tree.put (tree.nameOf path) (.file content)).at? path = some (.file content) :=
  at?_eq_some_file_iff.mpr
    ⟨(h.sameFolders_put content).locate_iff.mpr h.locate, entry?_put_self h.ne_nil⟩

theorem Writable.of_sameFolders (h : tree.Writable path) (hfolders : SameFolders tree tree') :
    tree'.Writable path := by
  have hname : tree'.nameOf path = tree.nameOf path := nameOf_congr hfolders.here
  refine ⟨?_, fun hfolder => h.notFolder ?_⟩
  · rw [hname]
    exact hfolders.locate_iff.mpr h.locate
  · rw [hname] at hfolder
    exact (hfolders.folder _).mp hfolder

theorem Writable.at?_of_none (h : tree.Writable path)
    (hentry : tree.entry? (tree.nameOf path) = none) : tree.at? path = none := by
  rw [at?_of_entry h.locate, hentry]
  rfl

theorem writable_of_at? {content : List UInt8} (h : tree.at? path = some (.file content)) :
    tree.Writable path ∧ tree.writable path = .ok (tree.nameOf path, content) := by
  obtain ⟨hlocate, hentry⟩ := at?_eq_some_file_iff.mp h
  refine ⟨⟨hlocate, by rw [hentry]; nofun⟩, ?_⟩
  rw [writable, hlocate]
  dsimp only [bind, Except.bind]
  rw [hentry]
  rfl

/-- A file that is taken away leaves nothing, and leaves the folders as they are. -/
theorem erase_of_at? {content : List UInt8} (h : tree.at? path = some (.file content)) :
    SameFolders tree (tree.erase (tree.nameOf path)) ∧
      (tree.erase (tree.nameOf path)).at? path = none := by
  have hpath := (writable_of_at? h).1
  have hfolders := sameFolders_erase hpath.ne_nil hpath.notFolder
  exact ⟨hfolders, (hpath.of_sameFolders hfolders).at?_of_none (entry?_erase_self hpath.ne_nil)⟩

/-- **A file under another name** is there with its bytes, and no longer under the old one. -/
theorem rename_of_at? {source target : String} {content : List UInt8}
    (hsource : tree.at? source = some (.file content)) (htarget : tree.Writable target)
    (hne : tree.nameOf source ≠ tree.nameOf target) :
    let after := (tree.erase (tree.nameOf source)).put (tree.nameOf target) (.file content)
    SameFolders tree after ∧ ChangedOnly {tree.nameOf target, tree.nameOf source} tree after ∧
      after.at? target = some (.file content) ∧ after.at? source = none := by
  obtain ⟨hfolders, -⟩ := erase_of_at? hsource
  have hpath := (writable_of_at? hsource).1
  have hput := (htarget.of_sameFolders hfolders).sameFolders_put content
  have hafter := (htarget.of_sameFolders hfolders).at?_put content
  have hall := hfolders.trans hput
  refine ⟨hall, ?_, hafter, (hpath.of_sameFolders hall).at?_of_none ?_⟩
  · exact (ChangedOnly.erase.mono (Set.subset_insert _ _)).trans
      (ChangedOnly.put.mono (Set.singleton_subset_iff.mpr (Set.mem_insert _ _)))
  · exact (entry?_put_of_ne hne).trans (entry?_erase_self hpath.ne_nil)

/-- Bytes come to a file that is there. -/
theorem append_of_at? {content : List UInt8} (bytes : List UInt8)
    (h : tree.at? path = some (.file content)) :
    ∃ tree', tree.append path bytes = .ok tree' ∧
      tree'.at? path = some (.file (content ++ bytes)) := by
  obtain ⟨hpath, hwritable⟩ := writable_of_at? h
  refine ⟨_, ?_, hpath.at?_put _⟩
  rw [append, hwritable]
  rfl

end SessionReplay.FileTree
