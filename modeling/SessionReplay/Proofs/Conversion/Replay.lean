import SessionReplay.Proofs.Conversion.Pacing
import SessionReplay.Proofs.Script.Run

/-!
# Runs of converted sessions

* `Conversion.paced` — a batch is sent after its pause;
* `Conversion.checkEvents`, `Conversion.performed` — each recorded status of a batch is checked, and
  this is done batch after batch;
* `Conversion.Unmet` — a response to a batch differs from the recorded one;
* `Conversion.mem_checksFrom`, `Conversion.exists_not_met_iff`: which checks a batch has, and when
  one of them fails;
* **`run_convert`**: a script does what the session did, as far as the responses allow.
-/

namespace SessionReplay

open Capture (Archive Entry)
open Script (Answers Event Plan)

namespace Conversion

/-! ## What a run should do -/

/-- A batch is sent after its pause. -/
def paced (batch : Batch Entry) : List Event :=
  (batch.pause.map fun pause => .slept (pauseMilliseconds pause)).toList ++
    [.sent (batch.items.map fun entry => replay entry.request)]

/-- The response to the entry at a place of a batch is checked to have the recorded status, if one
was recorded. -/
def checkEvent? (answers : Answers) (sent : Nat) (entry : Entry) (place : Nat) : Option Event :=
  if entry.response.status = 0 then none
  else some (.checked ⟨sent, place, answers sent place⟩ entry.response.status)

/-- The checks of the responses to a batch. -/
def checkEvents (answers : Answers) (sent : Nat) (batch : Batch Entry) : List Event :=
  batch.items.zipIdx.filterMap fun (entry, place) => checkEvent? answers sent entry place

/-- The batches are sent in order, and if there are checks, those of a batch come right after it. -/
def performed (checked : Bool) (answers : Answers) (batches : List (Batch Entry)) : List Event :=
  batches.zipIdx.flatMap fun (batch, sent) =>
    paced batch ++ if checked then checkEvents answers sent batch else []

/-- A response to a batch has another status than the recorded one. -/
def Unmet (answers : Answers) (sent : Nat) (batch : Batch Entry) : Prop :=
  ∃ place entry, batch.items[place]? = some entry ∧ entry.response.status ≠ 0 ∧
    answers sent place ≠ entry.response.status

/-! ## Checks of a batch -/

variable {answers : Answers} {sent : Nat} {settings : Settings}

theorem mem_checksFrom {place : Nat} {entries : List Entry} {check : Script.Check} :
    check ∈ checksFrom place entries ↔ ∃ i entry, entries[i]? = some entry ∧
      entry.response.status ≠ 0 ∧ check = ⟨place + i, entry.response.status⟩ := by
  induction entries generalizing place with
  | nil => simp [checksFrom]
  | cons entry entries ih =>
    rw [checksFrom]
    constructor
    · intro h
      split_ifs at h with hstatus
      · obtain ⟨i, e, he, hne, rfl⟩ := ih.mp h
        exact ⟨i + 1, e, he, hne, by rw [Nat.add_right_comm, Nat.add_assoc]⟩
      · rcases List.mem_cons.mp h with rfl | h
        · exact ⟨0, entry, rfl, hstatus, rfl⟩
        · obtain ⟨i, e, he, hne, rfl⟩ := ih.mp h
          exact ⟨i + 1, e, he, hne, by rw [Nat.add_right_comm, Nat.add_assoc]⟩
    · rintro ⟨i, e, he, hne, rfl⟩
      cases i with
      | zero =>
        cases he
        rw [if_neg hne]
        exact List.mem_cons_self
      | succ i =>
        have hmem : ⟨place + (i + 1), e.response.status⟩ ∈ checksFrom (place + 1) entries :=
          ih.mpr ⟨i, e, he, hne, by rw [Nat.add_right_comm, Nat.add_assoc]⟩
        split_ifs
        · exact hmem
        · exact List.mem_cons_of_mem _ hmem

theorem map_event_checksFrom (place : Nat) (entries : List Entry) :
    (checksFrom place entries).map (Script.Check.event answers sent) =
      (entries.zipIdx place).filterMap fun (entry, place) =>
        checkEvent? answers sent entry place := by
  induction entries generalizing place with
  | nil => rfl
  | cons entry entries ih =>
    rw [checksFrom, List.zipIdx_cons, List.filterMap_cons, ← ih]
    by_cases hstatus : entry.response.status = 0
    · simp only [checkEvent?, if_pos hstatus]
    · simp only [checkEvent?, if_neg hstatus, List.map_cons]
      rfl

theorem checks_step (checked : Bool) (batch : Batch Entry) :
    (step checked batch).checks = if checked then checksFrom 0 batch.items else [] := rfl

/-- The checks of a batch are about its calls. -/
theorem covered_step (checked : Bool) (batch : Batch Entry) : (step checked batch).Covered := by
  intro check hcheck
  rw [checks_step] at hcheck
  split_ifs at hcheck
  · obtain ⟨i, entry, hentry, -, rfl⟩ := mem_checksFrom.mp hcheck
    have hlt := (List.getElem?_eq_some_iff.mp hentry).1
    rw [step, List.length_map, Nat.zero_add]
    exact hlt
  · cases hcheck

/-- A check of a batch fails if a response to it differs from the recorded one. -/
theorem exists_not_met_iff {batch : Batch Entry} :
    (∃ check ∈ (step true batch).checks, ¬check.Met answers sent) ↔ Unmet answers sent batch := by
  simp only [checks_step, if_true, mem_checksFrom, Nat.zero_add]
  constructor
  · rintro ⟨_, ⟨i, entry, hentry, hne, rfl⟩, hunmet⟩
    exact ⟨i, entry, hentry, hne, hunmet⟩
  · rintro ⟨i, entry, hentry, hne, hunmet⟩
    exact ⟨_, ⟨i, entry, hentry, hne, rfl⟩, hunmet⟩

theorem pacing_step (checked : Bool) (batch : Batch Entry) :
    (step checked batch).pacing = paced batch := by
  have hcalls : (batch.items.map fun entry => call entry.request) =
      batch.items.map fun entry => replay entry.request :=
    List.map_congr_left fun entry _ => call_eq_replay entry.request
  rw [Script.Step.pacing, step, hcalls, paced, Option.map_map]
  rfl

theorem events_step (checked : Bool) (batch : Batch Entry) :
    (step checked batch).events answers sent =
      paced batch ++ if checked then checkEvents answers sent batch else [] := by
  rw [Script.Step.events, pacing_step, checks_step]
  cases checked with
  | false => rfl
  | true =>
    rw [if_pos rfl, map_event_checksFrom]
    rfl

/-! ## Runs -/

/-- No response to the batches ends the run. -/
def AllPassed (settings : Settings) (answers : Answers) (batches : List (Batch Entry)) : Prop :=
  ∀ sent batch, batches[sent]? = some batch →
    (step settings.checks batch).Passed settings.stopOnFailure answers sent

theorem allPassed_of_unchecked (h : settings.checks = false) (batches : List (Batch Entry)) :
    AllPassed settings answers batches := by
  intro sent batch _ _ check hcheck
  rw [h] at hcheck
  cases hcheck

theorem allPassed_of_goesOn (h : settings.stopOnFailure = false) (batches : List (Batch Entry)) :
    AllPassed settings answers batches := by
  intro sent batch _ hstops
  rw [h] at hstops
  cases hstops

theorem allPassed_of_met (hchecks : settings.checks = true) {batches : List (Batch Entry)}
    (h : ∀ sent batch, batches[sent]? = some batch → ¬Unmet answers sent batch) :
    AllPassed settings answers batches := by
  intro sent batch hbatch _ check hcheck
  rw [hchecks] at hcheck
  by_contra hunmet
  exact h sent batch hbatch (exists_not_met_iff.mp ⟨check, hcheck, hunmet⟩)

/-- **The run of batches that do not end it.** -/
theorem run_batches {batches : List (Batch Entry)} (h : AllPassed settings answers batches)
    (rest : List Script.Statement) :
    ∃ last, Script.run answers 0 []
        ((batches.map (step settings.checks)).flatMap
          (Script.Step.statements settings.stopOnFailure) ++ rest) =
      (Script.run answers batches.length last rest).after
        (performed settings.checks answers batches) := by
  have hcovered : ∀ s ∈ batches.map (step settings.checks), s.Covered := by
    intro s hs
    obtain ⟨batch, -, rfl⟩ := List.mem_map.mp hs
    exact covered_step settings.checks batch
  have hpassed : ∀ i (s : Script.Step), (batches.map (step settings.checks))[i]? = some s →
      s.Passed settings.stopOnFailure answers (0 + i) := by
    intro i s hs
    rw [List.getElem?_map] at hs
    obtain ⟨batch, hbatch, rfl⟩ := Option.map_eq_some_iff.mp hs
    rw [Nat.zero_add]
    exact h i batch hbatch
  obtain ⟨last, hrun⟩ := Script.run_steps_of_passed hcovered hpassed [] rest
  refine ⟨last, ?_⟩
  rw [hrun, List.zipIdx_map, List.flatMap_map, List.length_map, Nat.zero_add, performed]
  simp only [Prod.map, events_step, id]

theorem run_scriptOf {archive : Archive} {entries : List Entry}
    (h : AllPassed settings answers (batches settings entries)) :
    (scriptOf archive settings entries).plan.run answers =
      ⟨performed settings.checks answers (batches settings entries), .finished⟩ := by
  obtain ⟨last, hrun⟩ := run_batches h []
  rw [List.append_nil] at hrun
  rw [Plan.run, Script.plan, scriptOf, hrun, Script.run, Script.Run.after, List.append_nil]

theorem isCheck_of_mem_checkEvents {batch : Batch Entry} {event : Event}
    (h : event ∈ checkEvents answers sent batch) : event.isCheck = true := by
  obtain ⟨⟨entry, place⟩, -, hevent⟩ := List.mem_filterMap.mp h
  simp only [checkEvent?] at hevent
  split_ifs at hevent
  cases hevent
  rfl

theorem filter_paced (batch : Batch Entry) :
    (paced batch).filter (fun event => !event.isCheck) = paced batch := by
  rw [paced]
  cases batch.pause <;> rfl

theorem filter_checks {events : List Event} (h : ∀ event ∈ events, event.isCheck = true) :
    events.filter (fun event => !event.isCheck) = [] := by
  rw [List.filter_eq_nil_iff]
  intro event hevent
  rw [h event hevent]
  decide

theorem flatMap_zipIdx_fst {α β : Type} (f : α → List β) (l : List α) :
    (l.zipIdx.flatMap fun p => f p.1) = l.flatMap f := by
  rw [← List.flatMap_map Prod.fst f, List.zipIdx_map_fst]

/-- Apart from checks, batches are sent after their pauses. -/
theorem filter_performed (checked : Bool) (batches : List (Batch Entry)) :
    (performed checked answers batches).filter (fun event => !event.isCheck) =
      batches.flatMap paced := by
  have hbatch (batch : Batch Entry) (sent : Nat) :
      (paced batch ++ if checked then checkEvents answers sent batch else []).filter
        (fun event => !event.isCheck) = paced batch := by
    rw [List.filter_append, filter_paced, filter_checks, List.append_nil]
    intro event hevent
    split_ifs at hevent
    · exact isCheck_of_mem_checkEvents hevent
    · cases hevent
  rw [performed, List.filter_flatMap]
  simp only [hbatch]
  exact flatMap_zipIdx_fst paced batches

theorem performed_unchecked (batches : List (Batch Entry)) :
    performed false answers batches = batches.flatMap paced := by
  rw [performed]
  simp only [Bool.false_eq_true, if_false, List.append_nil]
  exact flatMap_zipIdx_fst paced batches

/-- **The run of batches of which one ends it.** -/
theorem run_scriptOf_of_unmet {archive : Archive} {entries : List Entry} {first : Nat}
    {batch : Batch Entry} (hchecks : settings.checks = true)
    (hstops : settings.stopOnFailure = true)
    (hbatch : (batches settings entries)[first]? = some batch) (hunmet : Unmet answers first batch)
    (hbefore : ∀ sent < first, ∀ b, (batches settings entries)[sent]? = some b →
      ¬Unmet answers sent b) :
    ∃ checks, (scriptOf archive settings entries).plan.run answers =
        ⟨performed settings.checks answers ((batches settings entries).take first) ++
          (paced batch ++ checks), .returned⟩ ∧
      ∀ event ∈ checks, event.isCheck = true := by
  obtain ⟨hlt, rfl⟩ := List.getElem?_eq_some_iff.mp hbatch
  have hsplit : batches settings entries = (batches settings entries).take first ++
      (batches settings entries)[first] :: (batches settings entries).drop (first + 1) := by
    rw [← List.drop_eq_getElem_cons hlt, List.take_append_drop]
  have hpassed : AllPassed settings answers ((batches settings entries).take first) := by
    refine allPassed_of_met hchecks fun sent b hb => ?_
    have hsent : sent < first := by
      have := (List.getElem?_eq_some_iff.mp hb).1
      rw [List.length_take] at this
      omega
    rw [List.getElem?_take_of_lt hsent] at hb
    exact hbefore sent hsent b hb
  have hfails : ∃ check ∈ (step settings.checks (batches settings entries)[first]).checks,
      ¬check.Met answers first := by
    rw [hchecks]
    exact exists_not_met_iff.mpr hunmet
  have hstatements (f : Batch Entry → List Script.Statement) :
      (batches settings entries).flatMap f = ((batches settings entries).take first).flatMap f ++
        (f (batches settings entries)[first] ++
          ((batches settings entries).drop (first + 1)).flatMap f) := by
    rw [← List.flatMap_cons, ← List.flatMap_append, ← hsplit]
  obtain ⟨last, hrun⟩ := run_batches hpassed
    ((step settings.checks (batches settings entries)[first]).statements settings.stopOnFailure ++
      ((batches settings entries).drop (first + 1)).flatMap fun batch =>
        (step settings.checks batch).statements settings.stopOnFailure)
  rw [List.length_take, Nat.min_eq_left hlt.le, List.flatMap_map, hstops] at hrun
  obtain ⟨checks, hend, hall⟩ := Script.run_step_of_unmet
    (covered_step settings.checks (batches settings entries)[first]) hfails last
    (((batches settings entries).drop (first + 1)).flatMap fun batch =>
      (step settings.checks batch).statements true)
  rw [hend, pacing_step, Script.Run.after] at hrun
  refine ⟨checks, ?_, hall⟩
  rw [Plan.run, Script.plan, scriptOf]
  simp only [List.flatMap_map, hstatements, hstops]
  exact hrun

end Conversion

/-- **A script does what the session did, as far as the responses allow.** Its text reads as a plan.
When that is run, every batch of the session is sent after its pause, which only the first batch
lacks, and without checks nothing else happens. With checks, each response is compared to the status
that was recorded for it, if one was, right after its own batch. If the run may stop, it returns in
the first batch with a response that differs, and sends no other batch after it. -/
theorem run_convert {archive : Archive} {settings : Settings} {text : String}
    (h : convert archive settings = .ok text) (answers : Answers) :
    ∃ entries plan, Conversion.kept Url.Host.reader settings archive.entries = .ok entries ∧
      Plan.read? text = some plan ∧
      let batches := Conversion.batches settings entries
      (∀ place batch, batches[place]? = some batch → (batch.pause = none ↔ place = 0)) ∧
      (settings.checks = false →
        plan.run answers = ⟨batches.flatMap Conversion.paced, .finished⟩) ∧
      (settings.checks = true → settings.stopOnFailure = false →
        plan.run answers = ⟨Conversion.performed true answers batches, .finished⟩) ∧
      (settings.checks = true → settings.stopOnFailure = true →
        ((∀ sent batch, batches[sent]? = some batch → ¬Conversion.Unmet answers sent batch) →
          plan.run answers = ⟨Conversion.performed true answers batches, .finished⟩) ∧
        ∀ first batch, batches[first]? = some batch → Conversion.Unmet answers first batch →
          (∀ sent < first, ∀ b, batches[sent]? = some b → ¬Conversion.Unmet answers sent b) →
          (plan.run answers).ending = .returned ∧
            (plan.run answers).events.filter (fun event => !event.isCheck) =
              (batches.take (first + 1)).flatMap Conversion.paced) := by
  obtain ⟨-, entries, hkept, rfl⟩ := convert_eq_ok_iff.mp h
  refine ⟨entries, _, hkept,
    Script.read?_text (Conversion.notesOneLine_scriptOf archive settings entries), ?_⟩
  intro batches
  have hrun : Conversion.AllPassed settings answers batches →
      (Conversion.scriptOf archive settings entries).plan.run answers =
        ⟨Conversion.performed settings.checks answers batches, .finished⟩ :=
    Conversion.run_scriptOf
  refine ⟨fun place batch hbatch => Batch.pause_eq_none_iff hbatch, fun hchecks => ?_,
    fun hchecks hstops => ?_, fun hchecks hstops => ⟨fun hmet => ?_,
      fun first batch hbatch hunmet hbefore => ?_⟩⟩
  · rw [hrun (Conversion.allPassed_of_unchecked hchecks _), hchecks, Conversion.performed_unchecked]
  · rw [hrun (Conversion.allPassed_of_goesOn hstops _), hchecks]
  · rw [hrun (Conversion.allPassed_of_met hchecks hmet), hchecks]
  · obtain ⟨checks, hend, hall⟩ :=
      Conversion.run_scriptOf_of_unmet hchecks hstops hbatch hunmet hbefore
    rw [hend]
    refine ⟨rfl, ?_⟩
    rw [List.filter_append, List.filter_append, Conversion.filter_performed,
      Conversion.filter_paced, Conversion.filter_checks hall, List.append_nil, List.take_add_one,
      hbatch, List.flatMap_append, Option.toList_some, List.flatMap_singleton]

theorem run_convert_pacedSession :
    ∃ text plan, convert pacedSession { checks := true, stopOnFailure := true } = .ok text ∧
      Plan.read? text = some plan ∧
      (plan.run fun sent _ => if sent = 1 then 500 else 200).ending = .returned ∧
      (plan.run fun sent _ => if sent = 1 then 500 else 200).events.filter
          (fun event => !event.isCheck) =
        [.sent [Conversion.replay (entryAt ⟨0, 0, 0⟩).request,
            Conversion.replay (entryAt ⟨0, 200000000, 0⟩).request],
          .slept 1500, .sent [Conversion.replay (entryAt ⟨1, 700600000, 0⟩).request]] := by
  have hhosts : ∀ e ∈ pacedSession.entries, e.host? ≠ none := by decide
  have hcheck : Settings.check { checks := true, stopOnFailure := true } = .ok () := rfl
  obtain ⟨text, htext⟩ := convert_of_hosts hhosts hcheck
  have hkept : Conversion.kept Url.Host.reader { checks := true, stopOnFailure := true }
      pacedSession.entries = .ok pacedSession.entries := rfl
  have hbatches : Conversion.batches { checks := true, stopOnFailure := true }
      pacedSession.entries = [⟨none, [entryAt ⟨0, 0, 0⟩, entryAt ⟨0, 200000000, 0⟩]⟩,
        ⟨some 1500600000, [entryAt ⟨1, 700600000, 0⟩]⟩,
        ⟨some 1299400007, [entryAt ⟨3, 7, 3600⟩]⟩] := rfl
  obtain ⟨entries, plan, hentries, hplan, -, -, -, hstops⟩ :=
    run_convert htext fun sent _ => if sent = 1 then 500 else 200
  obtain rfl := Except.ok.inj (hentries.symm.trans hkept)
  rw [hbatches] at hstops
  obtain ⟨hending, hevents⟩ := (hstops rfl rfl).2 1 _ rfl ⟨0, _, rfl, by decide, by decide⟩
    (by
      rintro sent hsent b hb ⟨place, entry, hentry, -, hunmet⟩
      obtain rfl : sent = 0 := Nat.lt_one_iff.mp hsent
      obtain rfl := Option.some.inj hb
      match place, hentry with
      | 0, rfl | 1, rfl => exact hunmet rfl)
  exact ⟨text, plan, htext, hplan, hending, hevents⟩

end SessionReplay
