import SessionReplay.Proofs.Script.ReadBack

/-!
# Runs of scripts

A run does one statement after the other. Sending a batch gives one response for each of its calls,
and these can be checked until the next batch is sent. What the responses are is not known before:
it is a parameter of a run.

* `Response`, `Answers` — a response, and the statuses of all responses;
* `Event`, `Ending`, `Run` — what a run does, how it ends, and both;
* `run`, `Plan.run` — the run of statements, and of a plan;
* `Step.events`, `Step.Passed` — what a step does if it does not end the run, and when it does not;
* **`run_steps_of_passed`**, `run_step_of_unmet`: the run of steps that do not end it, and of one
  that does.
-/

namespace SessionReplay.Script

/-- The response to the call at a place of a batch, both counted from zero. -/
structure Response where
  batch : Nat
  place : Nat
  status : Nat
  deriving DecidableEq, Repr

/-- The status of the response to each call, by its batch and its place in it. -/
abbrev Answers : Type := Nat → Nat → Nat

/-- What a run does: it sleeps for some milliseconds, sends a batch, or checks that a response has a
status. -/
inductive Event where
  | slept (milliseconds : Nat)
  | sent (calls : List Call)
  | checked (response : Response) (status : Nat)
  deriving DecidableEq, Repr

/-- A check of a response. -/
def Event.isCheck : Event → Bool
  | .checked .. => true
  | _ => false

/-- How a run ends: after its last statement, by a return, or at a check of a response that is not
there. -/
inductive Ending where
  | finished
  | returned
  | broken
  deriving DecidableEq, Repr

/-- A run. -/
structure Run where
  events : List Event
  ending : Ending
  deriving DecidableEq, Repr

/-- A run after other events. -/
def Run.after (events : List Event) (run : Run) : Run :=
  { run with events := events ++ run.events }

/-- The responses to the calls of a batch. -/
def responses (answers : Answers) (batch : Nat) (calls : List Call) : List Response :=
  (List.range calls.length).map fun place => ⟨batch, place, answers batch place⟩

/-- **The run of statements** after a number of batches, the last of which has some responses. A
check succeeds if the response has the status that it names. -/
def run (answers : Answers) : Nat → List Response → List Statement → Run
  | _, _, [] => ⟨[], .finished⟩
  | sent, res, .sleep milliseconds :: rest =>
    .after [.slept milliseconds] (run answers sent res rest)
  | sent, _, .send calls :: rest =>
    .after [.sent calls] (run answers (sent + 1) (responses answers sent calls) rest)
  | sent, res, .check check :: rest =>
    match res[check.place]? with
    | none => ⟨[], .broken⟩
    | some response => .after [.checked response check.status] (run answers sent res rest)
  | sent, res, .require check :: rest =>
    match res[check.place]? with
    | none => ⟨[], .broken⟩
    | some response =>
      .after [.checked response check.status]
        (if response.status = check.status then run answers sent res rest else ⟨[], .returned⟩)

/-- The run of a plan. -/
def Plan.run (plan : Plan) (answers : Answers) : Run :=
  Script.run answers 0 [] plan.statements

variable {answers : Answers} {sent place : Nat} {res : List Response} {rest : List Statement}
  {stops : Bool}

theorem Run.after_after (first second : List Event) (r : Run) :
    (r.after second).after first = r.after (first ++ second) := by
  rw [after, after, after, List.append_assoc]

/-! ## Checks -/

/-- The check of a response to a batch. -/
def Check.event (answers : Answers) (sent : Nat) (check : Check) : Event :=
  .checked ⟨sent, check.place, answers sent check.place⟩ check.status

/-- The response to a batch has the status that is checked. -/
def Check.Met (answers : Answers) (sent : Nat) (check : Check) : Prop :=
  answers sent check.place = check.status

theorem run_check_of_met {check : Check}
    (hres : res[check.place]? = some ⟨sent, check.place, answers sent check.place⟩)
    (hmet : stops = true → check.Met answers sent) (n : Nat) :
    run answers n res (check.statement stops :: rest) =
      (run answers n res rest).after [check.event answers sent] := by
  cases stops with
  | false =>
    change run answers n res (.check check :: rest) = _
    rw [run, hres]
    rfl
  | true =>
    change run answers n res (.require check :: rest) = _
    have hstatus : answers sent check.place = check.status := hmet rfl
    rw [run, hres]
    simp only [if_pos hstatus]
    rfl

theorem run_check_of_unmet {check : Check}
    (hres : res[check.place]? = some ⟨sent, check.place, answers sent check.place⟩)
    (hunmet : ¬check.Met answers sent) (n : Nat) :
    run answers n res (check.statement true :: rest) =
      ⟨[check.event answers sent], .returned⟩ := by
  change run answers n res (.require check :: rest) = _
  have hstatus : ¬answers sent check.place = check.status := hunmet
  rw [run, hres]
  simp only [if_neg hstatus]
  rfl

/-- **All checks are made** if no one ends the run. -/
theorem run_checks_of_met {checks : List Check}
    (hres : ∀ check ∈ checks,
      res[check.place]? = some ⟨sent, check.place, answers sent check.place⟩)
    (hmet : stops = true → ∀ check ∈ checks, check.Met answers sent) (n : Nat) :
    run answers n res (checks.map (Check.statement stops) ++ rest) =
      (run answers n res rest).after (checks.map (Check.event answers sent)) := by
  induction checks with
  | nil => rfl
  | cons check checks ih =>
    rw [List.forall_mem_cons] at hres
    have hfirst : stops = true → check.Met answers sent := fun hs => hmet hs _ List.mem_cons_self
    have hlater := ih hres.2 fun hs c hc => hmet hs c (List.mem_cons_of_mem _ hc)
    rw [List.map_cons, List.map_cons, List.cons_append, run_check_of_met hres.1 hfirst, hlater,
      Run.after_after]
    rfl

/-- **A check that fails ends the run**, and there are only checks before it. -/
theorem run_checks_of_unmet {checks : List Check}
    (hres : ∀ check ∈ checks,
      res[check.place]? = some ⟨sent, check.place, answers sent check.place⟩)
    (hunmet : ∃ check ∈ checks, ¬check.Met answers sent) (n : Nat) (rest : List Statement) :
    ∃ events, run answers n res (checks.map (Check.statement true) ++ rest) =
      ⟨events, .returned⟩ ∧ ∀ event ∈ events, event.isCheck = true := by
  induction checks with
  | nil =>
    obtain ⟨_, h, -⟩ := hunmet
    cases h
  | cons check checks ih =>
    rw [List.forall_mem_cons] at hres
    rw [List.map_cons, List.cons_append]
    by_cases hmet : check.Met answers sent
    · have hlater : ∃ c ∈ checks, ¬c.Met answers sent := by
        obtain ⟨c, hc, hne⟩ := hunmet
        rcases List.mem_cons.mp hc with rfl | hc
        · exact absurd hmet hne
        · exact ⟨c, hc, hne⟩
      obtain ⟨events, hrun, hevents⟩ := ih hres.2 hlater
      refine ⟨check.event answers sent :: events, ?_, List.forall_mem_cons.mpr ⟨rfl, hevents⟩⟩
      rw [run_check_of_met hres.1 fun _ => hmet, hrun]
      rfl
    · exact ⟨[check.event answers sent], run_check_of_unmet hres.1 hmet n,
        List.forall_mem_singleton.mpr rfl⟩

/-! ## Steps -/

/-- Every check of a step is about one of its calls. -/
def Step.Covered (step : Step) : Prop :=
  ∀ check ∈ step.checks, check.place < step.calls.length

/-- The pause and the batch of a step. -/
def Step.pacing (step : Step) : List Event :=
  (step.pause.map .slept).toList ++ [.sent step.calls]

/-- All that a step does. -/
def Step.events (answers : Answers) (sent : Nat) (step : Step) : List Event :=
  step.pacing ++ step.checks.map (Check.event answers sent)

/-- A step does not end the run. -/
def Step.Passed (stops : Bool) (answers : Answers) (sent : Nat) (step : Step) : Prop :=
  stops = true → ∀ check ∈ step.checks, check.Met answers sent

theorem responses_getElem? {calls : List Call} (h : place < calls.length) :
    (responses answers sent calls)[place]? = some ⟨sent, place, answers sent place⟩ := by
  rw [responses, List.getElem?_map, List.getElem?_range h, Option.map_some]

/-- A step sends its batch after its pause. -/
theorem run_statements (step : Step) :
    run answers sent res (step.statements stops ++ rest) =
      (run answers (sent + 1) (responses answers sent step.calls)
        (step.checks.map (Check.statement stops) ++ rest)).after step.pacing := by
  rw [Step.statements, Step.pacing]
  cases step.pause <;> rfl

/-- **The run of a step that does not end it.** -/
theorem run_step_of_passed {step : Step} (hcovered : step.Covered)
    (hpassed : step.Passed stops answers sent) :
    run answers sent res (step.statements stops ++ rest) =
      (run answers (sent + 1) (responses answers sent step.calls) rest).after
        (step.events answers sent) := by
  rw [run_statements, run_checks_of_met (fun c hc => responses_getElem? (hcovered c hc)) hpassed,
    Run.after_after, Step.events]

/-- **The run of a step that ends it.** -/
theorem run_step_of_unmet {step : Step} (hcovered : step.Covered)
    (hunmet : ∃ check ∈ step.checks, ¬check.Met answers sent) (res : List Response)
    (rest : List Statement) :
    ∃ checks, run answers sent res (step.statements true ++ rest) =
      ⟨step.pacing ++ checks, .returned⟩ ∧ ∀ event ∈ checks, event.isCheck = true := by
  obtain ⟨checks, hrun, hchecks⟩ := run_checks_of_unmet
    (fun c hc => responses_getElem? (hcovered c hc)) hunmet (sent + 1) rest
  exact ⟨checks, by rw [run_statements, hrun]; rfl, hchecks⟩

/-- **The run of steps that do not end it.** -/
theorem run_steps_of_passed {steps : List Step} (hcovered : ∀ step ∈ steps, step.Covered)
    (hpassed : ∀ i (step : Step), steps[i]? = some step → step.Passed stops answers (sent + i))
    (res : List Response) (rest : List Statement) :
    ∃ last, run answers sent res (steps.flatMap (Step.statements stops) ++ rest) =
      (run answers (sent + steps.length) last rest).after
        ((steps.zipIdx sent).flatMap fun (step, sent) => step.events answers sent) := by
  induction steps generalizing sent res with
  | nil => exact ⟨res, rfl⟩
  | cons step steps ih =>
    rw [List.forall_mem_cons] at hcovered
    have hfirst : step.Passed stops answers sent := hpassed 0 step rfl
    have hlater : ∀ i (s : Step), steps[i]? = some s → s.Passed stops answers (sent + 1 + i) :=
      fun i s hs => by
        rw [Nat.add_right_comm]
        exact hpassed (i + 1) s hs
    obtain ⟨last, hrun⟩ := ih hcovered.2 hlater (responses answers sent step.calls)
    refine ⟨last, ?_⟩
    rw [List.flatMap_cons, List.append_assoc, run_step_of_passed hcovered.1 hfirst, hrun,
      Run.after_after, List.zipIdx_cons, List.flatMap_cons, List.length_cons,
      Nat.add_right_comm, Nat.add_assoc]

end SessionReplay.Script
