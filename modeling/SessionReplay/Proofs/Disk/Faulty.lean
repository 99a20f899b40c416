import SessionReplay.Disk.Faulty
import SessionReplay.Problem
import SessionReplay.Proofs.Disk.Tree

/-!
# Runs on a faulty tree

* `FaultyTree.perform` — steps that may stop, on a faulty tree;
* `run_bind`, `perform_bind`, `perform_tryCatch`, `perform_file`: chains of steps one by one;
* `run_change`, `run_attempt_cases`, `run_append`, `run_stream`: what one operation does under its
  fate;
* `FaultyTree.Keeps` — steps after which a state still has a property;
* `FaultyTree.Stable` — changes that a property outlives;
* `Keeps.bind`, `Keeps.attempt`, `Keeps.append`, `Keeps.tryCatch`: **what each change keeps, whole
  runs keep**, whatever fails;
* `FaultyTree.Since` — the tree has a property, and so has every tree that it has been since;
* `run_store`, `append_stores`: bytes come to a file in their order, and all of them without a fault.
-/

namespace SessionReplay.FaultyTree

open Disk (Fault Fate Operation)

variable {α β : Type} {s s' : FaultyTree}

/-- Steps that may stop, on a faulty tree. -/
def perform (x : Attempt (StateM FaultyTree) α) (s : FaultyTree) : Except Problem α × FaultyTree :=
  run x.run s

/-! ## Chains of steps -/

@[simp]
theorem run_pure (a : α) : run (pure a) s = (a, s) := rfl

@[simp]
theorem run_bind (x : StateM FaultyTree α) (f : α → StateM FaultyTree β) :
    run (x >>= f) s = run (f (run x s).1) (run x s).2 := rfl

@[simp]
theorem perform_pure (a : α) : perform (pure a) s = (.ok a, s) := rfl

theorem perform_bind (x : Attempt (StateM FaultyTree) α)
    (f : α → Attempt (StateM FaultyTree) β) : perform (x >>= f) s =
      match perform x s with
      | (.ok a, s') => perform (f a) s'
      | (.error problem, s') => (.error problem, s') := by
  unfold perform
  rw [ExceptT.run_bind, run_bind]
  rcases run x.run s with ⟨_ | _, s'⟩ <;> rfl

theorem perform_tryCatch (x : Attempt (StateM FaultyTree) α)
    (f : Problem → Attempt (StateM FaultyTree) α) : perform (tryCatch x f) s =
      match perform x s with
      | (.ok a, s') => (.ok a, s')
      | (.error problem, s') => perform (f problem) s' := by
  simp only [perform, tryCatch, tryCatchThe, MonadExceptOf.tryCatch, ExceptT.tryCatch]
  change run (x.run >>= _) s = _
  rw [run_bind]
  rcases run x.run s with ⟨_ | _, s'⟩ <;> rfl

theorem perform_map (f : α → β) (x : Attempt (StateM FaultyTree) α) :
    perform (f <$> x) s = ((perform x s).1.map f, (perform x s).2) := by
  change run (ExceptT.run (ExceptT.map f x)) s = _
  unfold perform ExceptT.map
  change run (x.run >>= _) s = _
  rw [run_bind]
  rcases run x.run s with ⟨_ | _, s'⟩ <;> rfl

/-- What need not succeed. -/
theorem perform_optional (x : Attempt (StateM FaultyTree) α) :
    perform (tryCatch (some <$> x) fun _ => pure none) s =
      (.ok (perform x s).1.toOption, (perform x s).2) := by
  rw [perform_tryCatch, perform_map]
  rcases perform x s with ⟨problem | a, s'⟩ <;> rfl

@[simp]
theorem perform_lift (x : StateM FaultyTree α) :
    perform (liftM x : Attempt (StateM FaultyTree) α) s = (.ok (run x s).1, (run x s).2) := rfl

theorem perform_file (task : FileTask) (operation : StateM FaultyTree (Except Fault α)) :
    perform (Attempt.file task operation) s =
      ((run operation s).1.mapError (.file task), (run operation s).2) := by
  rw [Attempt.file, perform_bind, perform_lift]
  cases (run operation s).1 <;> rfl

@[simp]
theorem perform_ofExcept {ε : Type} (problem : ε → Problem) (result : Except ε α) :
    perform (Attempt.ofExcept problem result) s = (result.mapError problem, s) := by
  cases result <;> rfl

/-- A chain succeeds if both of its parts do. -/
theorem perform_bind_eq_ok_iff {x : Attempt (StateM FaultyTree) α}
    {f : α → Attempt (StateM FaultyTree) β} {b : β} : perform (x >>= f) s = (.ok b, s') ↔
      ∃ a middle, perform x s = (.ok a, middle) ∧ perform (f a) middle = (.ok b, s') := by
  rw [perform_bind]
  rcases perform x s with ⟨problem | a, middle⟩
  · refine iff_of_false nofun ?_
    rintro ⟨_, _, h, -⟩
    cases h
  · constructor
    · exact fun h => ⟨a, middle, rfl, h⟩
    · rintro ⟨_, _, h, hf⟩
      cases h
      exact hf

/-- A chain stops where its first part does, or where its second part does behind it. -/
theorem perform_bind_eq_error_iff {x : Attempt (StateM FaultyTree) α}
    {f : α → Attempt (StateM FaultyTree) β} {problem : Problem} :
    perform (x >>= f) s = (.error problem, s') ↔ perform x s = (.error problem, s') ∨
      ∃ a middle, perform x s = (.ok a, middle) ∧ perform (f a) middle = (.error problem, s') := by
  rw [perform_bind]
  rcases perform x s with ⟨earlier | a, middle⟩
  · constructor
    · intro h
      cases h
      exact .inl rfl
    · rintro (h | ⟨_, _, h, -⟩)
      · cases h
        rfl
      · cases h
  · constructor
    · exact fun h => .inr ⟨a, middle, rfl, h⟩
    · rintro (h | ⟨_, _, h, hf⟩)
      · cases h
      · cases h
        exact hf

theorem perform_file_eq_ok_iff {task : FileTask} {operation : StateM FaultyTree (Except Fault α)}
    {a : α} : perform (Attempt.file task operation) s = (.ok a, s') ↔
      run operation s = (.ok a, s') := by
  rw [perform_file]
  rcases run operation s with ⟨_ | _, middle⟩ <;> simp [Except.mapError]

theorem perform_file_eq_error {task : FileTask} {operation : StateM FaultyTree (Except Fault α)}
    {problem : Problem} (h : perform (Attempt.file task operation) s = (.error problem, s')) :
    ∃ fault, run operation s = (.error fault, s') := by
  rw [perform_file] at h
  generalize run operation s = reached at h ⊢
  obtain ⟨fault | a, middle⟩ := reached
  · cases h
    exact ⟨fault, rfl⟩
  · cases h

/-! ## Operations -/

/-- The state behind an operation that changes nothing. -/
def passed (s : FaultyTree) : FaultyTree := { s with fates := s.fates.tail }

/-- The state with another tree. -/
def moved (s : FaultyTree) (tree : FileTree) : FaultyTree :=
  { s with tree, past := tree :: s.past }

theorem run_change (f : FileTree → Except Fault FileTree) : run (change f) s =
    match f s.tree with
    | .ok tree => (.ok (), s.moved tree)
    | .error fault => (.error fault, s) := by
  change run (match f s.tree with | .ok _ => _ | .error _ => _) s = _
  cases f s.tree <;> rfl

theorem run_attempt (operation : Operation) (f : FileTree → Except Fault FileTree) :
    run (attempt operation f) s =
      match (s.fates.headD {}).fault operation with
      | some fault => (.error fault, s.passed)
      | none => run (change f) s.passed := by
  change run (match (s.fates.headD {}).fault operation with | some _ => _ | none => _) s.passed = _
  cases (s.fates.headD {}).fault operation <;> rfl

/-- **What an operation can do**: it changes the tree, or it fails and changes nothing. -/
theorem run_attempt_cases (operation : Operation) (f : FileTree → Except Fault FileTree)
    (s : FaultyTree) :
    (∃ tree, f s.tree = .ok tree ∧ run (attempt operation f) s = (.ok (), s.passed.moved tree)) ∨
      ∃ fault, run (attempt operation f) s = (.error fault, s.passed) := by
  rw [run_attempt]
  cases (s.fates.headD {}).fault operation with
  | some fault => exact .inr ⟨fault, rfl⟩
  | none =>
    dsimp only
    rw [run_change]
    cases hf : f s.passed.tree with
    | ok tree => exact .inl ⟨tree, hf, rfl⟩
    | error fault => exact .inr ⟨fault, rfl⟩

theorem run_attempt_eq_ok {operation : Operation} {f : FileTree → Except Fault FileTree}
    (h : run (attempt operation f) s = (.ok (), s')) : ∃ tree, f s.tree = .ok tree ∧
      s' = s.passed.moved tree := by
  rcases run_attempt_cases operation f s with ⟨tree, hf, hrun⟩ | ⟨fault, hrun⟩
  · rw [hrun] at h
    cases h
    exact ⟨tree, hf, rfl⟩
  · rw [hrun] at h
    cases h

theorem run_attempt_eq_error {operation : Operation} {f : FileTree → Except Fault FileTree}
    {fault : Fault} (h : run (attempt operation f) s = (.error fault, s')) : s' = s.passed := by
  rcases run_attempt_cases operation f s with ⟨tree, -, hrun⟩ | ⟨_, hrun⟩
  · rw [hrun] at h
    cases h
  · rw [hrun] at h
    cases h
    rfl

theorem run_attempt_of_calm {operation : Operation} {f : FileTree → Except Fault FileTree}
    (h : s.fates = []) : run (attempt operation f) s = run (change f) s.passed := by
  rw [run_attempt, h]
  rfl

theorem fates_passed (h : s.fates = []) : s.passed.fates = [] := by
  rw [passed, h]
  rfl

theorem run_change_of_ok {f : FileTree → Except Fault FileTree} {tree : FileTree}
    (h : f s.tree = .ok tree) : run (change f) s = (.ok (), s.moved tree) := by
  rw [run_change, h]

/-- An operation that nothing befalls succeeds where the tree allows it. -/
theorem run_attempt_of_ok {operation : Operation} {f : FileTree → Except Fault FileTree}
    {tree : FileTree} (hs : s.fates = []) (h : f s.tree = .ok tree) :
    run (attempt operation f) s = (.ok (), s.passed.moved tree) := by
  rw [run_attempt_of_calm hs]
  exact run_change_of_ok h

theorem run_store_cons (path : String) (piece : List UInt8) (pieces : List (List UInt8)) :
    run (store path (piece :: pieces)) s =
      match run (change (·.append path piece)) s with
      | (.ok (), s') => run (store path pieces) s'
      | (.error fault, s') => (.error fault, s') := by
  rw [store, run_bind]
  rcases run (change (·.append path piece)) s with ⟨_ | _, s'⟩ <;> rfl

theorem run_append (path : String) (bytes : List UInt8) : run (append path bytes) s =
    match (s.fates.headD {}).fault .append with
    | none =>
      run (store path ((Disk.cut (s.fates.headD {}).pieces bytes).1 ++
        [(Disk.cut (s.fates.headD {}).pieces bytes).2])) s.passed
    | some fault =>
      ((run (store path (Disk.cut (s.fates.headD {}).pieces bytes).1) s.passed).1 >>=
          fun _ => .error fault,
        (run (store path (Disk.cut (s.fates.headD {}).pieces bytes).1) s.passed).2) := by
  change run (match (s.fates.headD {}).fault .append with | none => _ | some _ => _) s.passed = _
  cases (s.fates.headD {}).fault .append with
  | none => rfl
  | some fault =>
    dsimp only
    rw [run_bind]
    cases (run (store path (Disk.cut (s.fates.headD {}).pieces bytes).1) s.passed).1 <;> rfl

/-- Bytes that nothing befalls are stored at once. -/
theorem run_append_of_calm {path : String} {bytes : List UInt8} (h : s.fates = []) :
    run (append path bytes) s = run (change (·.append path bytes)) s.passed := by
  rw [run_append, h]
  change run (store path [bytes]) s.passed = _
  rw [run_store_cons]
  rcases run (change (·.append path bytes)) s.passed with ⟨_ | _, s'⟩ <;> rfl

theorem run_stream (path : String) : run (stream path) s =
    (match (s.fates.headD {}).fault .stream with
      | some fault => .error fault
      | none =>
        match (s.fates.headD {}).fault .read with
        | none => (s.tree.find path).map FileTree.streamOf
        | some fault => ((s.tree.find path).map FileTree.streamOf).map fun whole =>
            ⟨(Disk.cut (s.fates.headD {}).pieces whole.pieces.flatten).1, some fault⟩,
      s.passed) := by
  change run (match (s.fates.headD {}).fault .stream with | some _ => _ | none => _) s.passed = _
  cases (s.fates.headD {}).fault .stream with
  | some fault => rfl
  | none =>
    change run (match (s.fates.headD {}).fault .read with | none => _ | some _ => _) s.passed = _
    cases (s.fates.headD {}).fault .read <;> rfl

/-- What comes of a file to its end is all that the file holds. -/
theorem at?_of_stream {path : String} {stream : Disk.Stream}
    (h : (run (FaultyTree.stream path) s).1 = .ok stream) (hend : stream.failure = none) :
    s.tree.at? path = some (.file stream.pieces.flatten) := by
  rw [run_stream] at h
  cases hstream : (s.fates.headD {}).fault .stream with
  | some fault =>
    rw [hstream] at h
    cases h
  | none =>
    cases hread : (s.fates.headD {}).fault .read with
    | some fault =>
      simp only [hstream, hread, map_eq_ok_iff] at h
      obtain ⟨_, -, rfl⟩ := h
      cases hend
    | none =>
      simp only [hstream, hread, map_eq_ok_iff] at h
      obtain ⟨entry, hentry, rfl⟩ := h
      rw [FileTree.at?, hentry]
      cases entry with
      | folder => cases hend
      | file content => exact congrArg (some ∘ FileEntry.file) (List.flatten_singleton).symm

theorem run_stream_of_calm {path : String} (h : s.fates = []) :
    run (stream path) s = ((s.tree.find path).map FileTree.streamOf, s.passed) := by
  rw [run_stream, h]
  rfl

/-! ## What runs keep -/

section Keeps

variable {I : FaultyTree → Prop} {f : FileTree → Except Fault FileTree} {operation : Operation}

/-- Steps after which a state still has a property. -/
def Keeps (I : FaultyTree → Prop) (x : StateM FaultyTree α) : Prop :=
  ∀ s, I s → I (run x s).2

/-- A property outlives a change, and the fate that comes before it. -/
structure Stable (I : FaultyTree → Prop) (f : FileTree → Except Fault FileTree) : Prop where
  passed : ∀ s, I s → I s.passed
  moved : ∀ s tree, I s → f s.tree = .ok tree → I (s.moved tree)

namespace Keeps

theorem pure (a : α) : Keeps I (Pure.pure a) := fun _ h => h

theorem bind {x : StateM FaultyTree α} {f : α → StateM FaultyTree β} (hx : Keeps I x)
    (hf : ∀ a, Keeps I (f a)) : Keeps I (x >>= f) := fun s h => hf _ _ (hx s h)

/-- What only looks at the tree keeps everything. -/
theorem look (g : FaultyTree → α) : Keeps I (g <$> get) := fun _ h => h

theorem change (h : Stable I f) : Keeps I (FaultyTree.change f) := by
  intro s hs
  rw [run_change]
  cases hf : f s.tree with
  | error fault => exact hs
  | ok tree => exact h.moved s tree hs hf

theorem attempt (h : Stable I f) : Keeps I (FaultyTree.attempt operation f) := by
  intro s hs
  have hpassed := h.passed s hs
  rcases run_attempt_cases operation f s with ⟨tree, hf, hrun⟩ | ⟨fault, hrun⟩
  · rw [hrun]
    exact h.moved s.passed tree hpassed hf
  · rw [hrun]
    exact hpassed

theorem store {path : String} (h : ∀ piece, Stable I (·.append path piece))
    (pieces : List (List UInt8)) : Keeps I (store path pieces) := by
  induction pieces with
  | nil => exact pure _
  | cons piece pieces ih =>
    refine (change (h piece)).bind fun result => ?_
    cases result with
    | ok _ => exact ih
    | error fault => exact pure _

theorem append {path : String} {bytes : List UInt8}
    (h : ∀ piece, Stable I (·.append path piece)) : Keeps I (append path bytes) := by
  intro s hs
  have hpassed := (h []).passed s hs
  rw [run_append]
  cases (s.fates.headD {}).fault .append with
  | none => exact store h _ _ hpassed
  | some fault => exact store h _ _ hpassed

theorem stream {path : String} (h : ∀ s, I s → I s.passed) : Keeps I (stream path) := by
  intro s hs
  rw [run_stream]
  exact h s hs

theorem isFolder {path : String} : Keeps I (Disk.isFolder path : StateM FaultyTree Bool) :=
  look _

theorem createFolderUnlessThere {path : String} (h : Stable I (·.createFolder path)) :
    Keeps I (Disk.createFolderUnlessThere path : StateM FaultyTree (Except Fault Unit)) := by
  refine bind (.attempt h) fun result => ?_
  cases result with
  | ok _ => exact pure _
  | error fault => exact isFolder.bind fun _ => pure _

theorem createFoldersFrom {paths : List String}
    (h : ∀ path ∈ paths, Stable I (·.createFolder path)) :
    Keeps I (Disk.createFoldersFrom paths : StateM FaultyTree (Except Fault Unit)) := by
  induction paths with
  | nil => exact pure _
  | cons path above ih =>
    obtain ⟨hpath, habove⟩ := List.forall_mem_cons.mp h
    rw [Disk.createFoldersFrom]
    split_ifs
    · exact pure _
    refine bind (.attempt hpath) fun result => ?_
    split
    · exact pure _
    · refine (ih habove).bind fun result => ?_
      cases result with
      | ok _ => exact createFolderUnlessThere hpath
      | error fault => exact pure _
    · exact isFolder.bind fun _ => pure _

/-! ### Steps that may stop -/

theorem andThen {x : Attempt (StateM FaultyTree) α} {f : α → Attempt (StateM FaultyTree) β}
    (hx : Keeps I x.run) (hf : ∀ a, Keeps I (f a).run) : Keeps I (x >>= f).run := by
  intro s hs
  have hmiddle : I (perform x s).2 := hx s hs
  change I (perform (x >>= f) s).2
  rw [perform_bind]
  generalize perform x s = reached at hmiddle ⊢
  obtain ⟨problem | a, middle⟩ := reached
  · exact hmiddle
  · exact hf a middle hmiddle

theorem tryCatch {x : Attempt (StateM FaultyTree) α} {f : Problem → Attempt (StateM FaultyTree) α}
    (hx : Keeps I x.run) (hf : ∀ problem, Keeps I (f problem).run) :
    Keeps I (MonadExcept.tryCatch x f).run := by
  intro s hs
  have hmiddle : I (perform x s).2 := hx s hs
  change I (perform (MonadExcept.tryCatch x f) s).2
  rw [perform_tryCatch]
  generalize perform x s = reached at hmiddle ⊢
  obtain ⟨problem | a, middle⟩ := reached
  · exact hf problem middle hmiddle
  · exact hmiddle

theorem lift {x : StateM FaultyTree α} (hx : Keeps I x) :
    Keeps I (liftM x : Attempt (StateM FaultyTree) α).run := hx

theorem file {task : FileTask} {operation : StateM FaultyTree (Except Fault α)}
    (h : Keeps I operation) : Keeps I (Attempt.file task operation).run := by
  refine (lift h).andThen fun result => ?_
  cases result <;> exact pure _

theorem ofExcept {ε : Type} {problem : ε → Problem} {result : Except ε α} :
    Keeps I (Attempt.ofExcept problem result : Attempt (StateM FaultyTree) α).run := by
  cases result <;> exact pure _

end Keeps

end Keeps

/-- What a state that steps lead to has. -/
theorem Keeps.perform {I : FaultyTree → Prop} {x : Attempt (StateM FaultyTree) α}
    {result : Except Problem α} (h : Keeps I x.run) (hs : I s)
    (hx : FaultyTree.perform x s = (result, s')) : I s' := by
  have hafter : I (FaultyTree.perform x s).2 := h s hs
  rwa [hx] at hafter

/-- The tree has a property, and so has every tree that it has been after some old ones. -/
structure Since (old : List FileTree) (P : FileTree → Prop) (s : FaultyTree) : Prop where
  now : P s.tree
  past : ∃ fresh, s.past = fresh ++ old ∧ ∀ tree ∈ fresh, P tree

/-- What a change of the tree keeps, all trees have. -/
theorem stable_since {old : List FileTree} {P : FileTree → Prop}
    {f : FileTree → Except Fault FileTree} (h : ∀ tree tree', P tree → f tree = .ok tree' → P tree') :
    Stable (Since old P) f where
  passed _ hs := ⟨hs.now, hs.past⟩
  moved s tree hs hf := by
    obtain ⟨fresh, hpast, hfresh⟩ := hs.past
    have htree := h s.tree tree hs.now hf
    exact ⟨htree, tree :: fresh, congrArg (tree :: ·) hpast,
      List.forall_mem_cons.mpr ⟨htree, hfresh⟩⟩

/-- Fates only pass. -/
theorem stable_fates {Q : Fate → Prop} {f : FileTree → Except Fault FileTree} :
    Stable (fun s => ∀ fate ∈ s.fates, Q fate) f where
  passed _ hs fate hfate := hs fate (List.mem_of_mem_tail hfate)
  moved _ _ hs _ := hs

theorem stable_calm {f : FileTree → Except Fault FileTree} : Stable (fun s => s.fates = []) f where
  passed _ hs := fates_passed hs
  moved _ _ hs _ := hs

/-- The tree as it stands is the last one that it has become. -/
theorem stable_last {first : FileTree} {f : FileTree → Except Fault FileTree} :
    Stable (fun s => s.past.headD first = s.tree) f where
  passed _ hs := hs
  moved _ _ _ _ := rfl

/-! ## Bytes of files -/

theorem at?_of_createFile {path : String}
    (h : run (Disk.createFile path : StateM FaultyTree (Except Fault Unit)) s = (.ok (), s')) :
    s'.tree.at? path = some (.file []) := by
  obtain ⟨created, hcreated, rfl⟩ := run_attempt_eq_ok h
  obtain ⟨hplace, rfl⟩ := FileTree.createFile_eq_ok hcreated
  exact hplace.at?_put []

theorem flatten_cut (sizes : List Nat) (bytes : List UInt8) :
    (Disk.cut sizes bytes).1.flatten ++ (Disk.cut sizes bytes).2 = bytes := by
  induction sizes generalizing bytes with
  | nil => rfl
  | cons size sizes ih =>
    change bytes.take size ++ (Disk.cut sizes (bytes.drop size)).1.flatten ++
      (Disk.cut sizes (bytes.drop size)).2 = bytes
    rw [List.append_assoc, ih, List.take_append_drop]

theorem run_store {path : String} {content : List UInt8} (pieces : List (List UInt8))
    (h : s.tree.at? path = some (.file content)) :
    (run (store path pieces) s).1 = .ok () ∧
      (run (store path pieces) s).2.tree.at? path = some (.file (content ++ pieces.flatten)) := by
  induction pieces generalizing s content with
  | nil =>
    rw [List.flatten_nil, List.append_nil]
    exact ⟨rfl, h⟩
  | cons piece pieces ih =>
    obtain ⟨tree, happend, htree⟩ := FileTree.append_of_at? piece h
    rw [run_store_cons, run_change, happend, List.flatten_cons, ← List.append_assoc]
    exact ih htree

/-- **Bytes come to a file in their order**, and all of them without a fault. -/
theorem append_stores {path : String} {content : List UInt8} (bytes : List UInt8)
    (h : s.tree.at? path = some (.file content)) : ∃ stored, stored <+: bytes ∧
      (run (append path bytes) s).2.tree.at? path = some (.file (content ++ stored)) ∧
      ((run (append path bytes) s).1 = .ok () → stored = bytes) := by
  have hcut := flatten_cut (s.fates.headD {}).pieces bytes
  rw [run_append]
  cases (s.fates.headD {}).fault .append with
  | none =>
    have hstore := run_store (s := s.passed) ((Disk.cut (s.fates.headD {}).pieces bytes).1 ++
      [(Disk.cut (s.fates.headD {}).pieces bytes).2]) h
    rw [List.flatten_append, List.flatten_singleton, hcut] at hstore
    exact ⟨bytes, List.prefix_rfl, hstore.2, fun _ => rfl⟩
  | some fault =>
    obtain ⟨hok, hstore⟩ := run_store (s := s.passed)
      (Disk.cut (s.fates.headD {}).pieces bytes).1 h
    refine ⟨_, ⟨_, hcut⟩, hstore, fun herror => ?_⟩
    dsimp only at herror
    rw [hok] at herror
    cases herror

theorem at?_of_append {path : String} {content bytes : List UInt8}
    (hs : s.tree.at? path = some (.file content))
    (h : run (Disk.append path bytes : StateM FaultyTree (Except Fault Unit)) s = (.ok (), s')) :
    s'.tree.at? path = some (.file (content ++ bytes)) := by
  obtain ⟨stored, -, hstored, hwhole⟩ := append_stores bytes hs
  change run (append path bytes) s = _ at h
  rw [h] at hstored hwhole
  rw [← hwhole rfl]
  exact hstored

end SessionReplay.FaultyTree
