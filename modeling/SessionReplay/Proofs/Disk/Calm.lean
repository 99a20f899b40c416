import SessionReplay.Proofs.Disk.Faulty

/-!
# A faulty tree without faults

* `Agrees` — steps on a faulty tree do the same as steps on a tree, as long as nothing befalls the
  operations;
* `Agrees.bind`, `Agrees.andThen`, `Agrees.tryCatch`: chains of steps agree if their parts do;
* `Agrees.attempt`, `Agrees.append`, `Agrees.stream`, …: **each operation agrees with that of the
  tree**;
* `Agrees.createFolders`, `Agrees.readText`: and so do the tasks that are made of them.
-/

namespace SessionReplay.FaultyTree

open Disk (Fault Operation)

variable {α β : Type} {path : String} {s : FaultyTree}

/-- Steps on a faulty tree do the same as steps on a tree, as long as nothing befalls the
operations. -/
def Agrees (x : StateM FaultyTree α) (y : StateM FileTree α) : Prop :=
  ∀ s : FaultyTree, s.fates = [] →
    ((run x s).1, (run x s).2.tree) = StateT.run y s.tree ∧ (run x s).2.fates = []

theorem run_fileAttempt (f : FileTree → Except Fault FileTree) (tree : FileTree) :
    StateT.run (FileTree.attempt f) tree =
      match f tree with
      | .ok tree' => (.ok (), tree')
      | .error fault => (.error fault, tree) := by
  change StateT.run (match f tree with | .ok _ => _ | .error _ => _) tree = _
  cases f tree <;> rfl

namespace Agrees

theorem pure (a : α) : Agrees (Pure.pure a) (Pure.pure a) := fun _ h => ⟨rfl, h⟩

theorem bind {x : StateM FaultyTree α} {y : StateM FileTree α} {f : α → StateM FaultyTree β}
    {g : α → StateM FileTree β} (hx : Agrees x y) (hf : ∀ a, Agrees (f a) (g a)) :
    Agrees (x >>= f) (y >>= g) := by
  intro s h
  obtain ⟨hreached, hfates⟩ := hx s h
  have hbind : StateT.run (y >>= g) s.tree =
      StateT.run (g (StateT.run y s.tree).1) (StateT.run y s.tree).2 := rfl
  rw [run_bind, hbind, ← hreached]
  exact hf _ _ hfates

/-! ## Operations -/

theorem look (f : FileTree → α) : Agrees (do return f (← get).tree) (do return f (← get)) :=
  fun _ h => ⟨rfl, h⟩

theorem isThere (path : String) : Agrees (Disk.isThere path) (Disk.isThere path) :=
  look fun tree => (tree.find path).toOption.isSome

theorem isFolder (path : String) : Agrees (Disk.isFolder path) (Disk.isFolder path) :=
  look fun tree => decide ((tree.find path).toOption = some .folder)

theorem isSame (path other : String) :
    Agrees (Disk.isSame path other) (Disk.isSame path other) :=
  look fun tree => tree.isSame path other

theorem change (f : FileTree → Except Fault FileTree) :
    Agrees (FaultyTree.change f) (FileTree.attempt f) := by
  intro s h
  rw [run_change, run_fileAttempt]
  cases f s.tree <;> exact ⟨rfl, h⟩

theorem attempt (operation : Operation) (f : FileTree → Except Fault FileTree) :
    Agrees (FaultyTree.attempt operation f) (FileTree.attempt f) := by
  intro s h
  rw [run_attempt_of_calm h]
  exact change f s.passed (fates_passed h)

theorem append (path : String) (bytes : List UInt8) :
    Agrees (Disk.append path bytes) (Disk.append path bytes) := by
  intro s h
  have hchange := change (·.append path bytes) s.passed (fates_passed h)
  rw [← run_append_of_calm h] at hchange
  exact hchange

theorem stream (path : String) : Agrees (Disk.stream path) (Disk.stream path) := by
  intro s h
  change ((run (FaultyTree.stream path) s).1, (run (FaultyTree.stream path) s).2.tree) = _ ∧
    (run (FaultyTree.stream path) s).2.fates = []
  rw [run_stream_of_calm h]
  exact ⟨rfl, fates_passed h⟩

theorem sync (path : String) : Agrees (Disk.sync path) (Disk.sync path) := by
  intro s h
  change ((run (FaultyTree.attempt .sync .ok) s).1, (run (FaultyTree.attempt .sync .ok) s).2.tree) =
    _ ∧ (run (FaultyTree.attempt .sync .ok) s).2.fates = []
  rw [run_attempt_of_calm h]
  exact ⟨rfl, fates_passed h⟩

/-! ## Steps that may stop -/

theorem andThen {x : Attempt (StateM FaultyTree) α} {y : Attempt (StateM FileTree) α}
    {f : α → Attempt (StateM FaultyTree) β} {g : α → Attempt (StateM FileTree) β}
    (hx : Agrees x.run y.run) (hf : ∀ a, Agrees (f a).run (g a).run) :
    Agrees (x >>= f).run (y >>= g).run := by
  change Agrees (x.run >>= ExceptT.bindCont f) (y.run >>= ExceptT.bindCont g)
  refine hx.bind fun result => ?_
  cases result with
  | ok a => exact hf a
  | error problem => exact pure _

theorem tryCatch {x : Attempt (StateM FaultyTree) α} {y : Attempt (StateM FileTree) α}
    {f : Problem → Attempt (StateM FaultyTree) α} {g : Problem → Attempt (StateM FileTree) α}
    (hx : Agrees x.run y.run) (hf : ∀ problem, Agrees (f problem).run (g problem).run) :
    Agrees (MonadExcept.tryCatch x f).run (MonadExcept.tryCatch y g).run := by
  simp only [MonadExcept.tryCatch, tryCatchThe, MonadExceptOf.tryCatch, ExceptT.tryCatch]
  change Agrees (x.run >>= _) (y.run >>= _)
  refine hx.bind fun result => ?_
  cases result with
  | ok a => exact pure _
  | error problem => exact hf problem

theorem map {x : Attempt (StateM FaultyTree) α} {y : Attempt (StateM FileTree) α} (f : α → β)
    (hx : Agrees x.run y.run) : Agrees (f <$> x).run (f <$> y).run := by
  simp only [Functor.map, ExceptT.map]
  change Agrees (x.run >>= _) (y.run >>= _)
  refine hx.bind fun result => ?_
  cases result <;> exact pure _

theorem lift {x : StateM FaultyTree α} {y : StateM FileTree α} (h : Agrees x y) :
    Agrees (liftM x : Attempt (StateM FaultyTree) α).run
      (liftM y : Attempt (StateM FileTree) α).run :=
  h.bind fun _ => pure _

theorem file {task : FileTask} {x : StateM FaultyTree (Except Fault α)}
    {y : StateM FileTree (Except Fault α)} (h : Agrees x y) :
    Agrees (Attempt.file task x).run (Attempt.file task y).run := by
  refine (lift h).andThen fun result => ?_
  cases result <;> exact pure _

theorem ofExcept {ε : Type} {problem : ε → Problem} {result : Except ε α} :
    Agrees (Attempt.ofExcept problem result : Attempt (StateM FaultyTree) α).run
      (Attempt.ofExcept problem result : Attempt (StateM FileTree) α).run := by
  cases result <;> exact pure _

/-! ## Tasks -/

theorem createFoldersFrom (paths : List String) :
    Agrees (Disk.createFoldersFrom paths) (Disk.createFoldersFrom paths) := by
  induction paths with
  | nil => exact pure _
  | cons path above ih =>
    rw [Disk.createFoldersFrom, Disk.createFoldersFrom]
    split_ifs
    · exact pure _
    refine bind (attempt _ _) fun result => ?_
    split
    · exact pure _
    · refine ih.bind fun result => ?_
      cases result with
      | ok _ =>
        refine bind (attempt _ _) fun result => ?_
        cases result with
        | ok _ => exact pure _
        | error fault => exact (isFolder path).bind fun _ => pure _
      | error fault => exact pure _
    · exact (isFolder path).bind fun _ => pure _

theorem createFolders (path : String) :
    Agrees (Disk.createFolders path) (Disk.createFolders path) := createFoldersFrom _

theorem readText (path : String) : Agrees (Disk.readText path) (Disk.readText path) :=
  (stream path).bind fun _ => pure _

end Agrees

end SessionReplay.FaultyTree
