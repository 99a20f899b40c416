import SessionReplay.Proofs.Batch.Partition
import SessionReplay.Proofs.Conversion.Outcome
import SessionReplay.Proofs.Script.ReadBack
import SessionReplay.Proofs.Text.Blank

/-!
# What a session replays

* `Conversion.plan` — what the script of a session must say, entry by entry;
* `Conversion.plan_scriptOf`: it says so;
* `Conversion.notesOneLine_scriptOf`: no note of a session breaks its line;
* **`read_convert`**: the plan of a session is read from the text that it makes.
-/

namespace SessionReplay

open Capture (Archive Entry Request)
open Script (OneLine Plan Statement)

namespace Conversion

/-! ## The plan of a session -/

/-- What is sent for a request. -/
def replay (request : Request) : Script.Call :=
  { method := Text.asciiUpper request.method
    url := request.url.text
    payload :=
      match Body.ofRequest request with
      | .absent => .absent
      | .text content => .text content
      | .form fields => .form fields
      | .omitted reason => .note (Script.Comment.flat reason.message)
    cookies := request.cookies
    headers := Headers.replayed request.headers (!request.cookies.isEmpty) }

/-- What is checked of the response to the entry at a place: its status, if one was recorded. -/
def verify? (stops : Bool) (entry : Entry) (place : Nat) : Option Statement :=
  if entry.response.status = 0 then none
  else if stops then some (.require ⟨place, entry.response.status⟩)
  else some (.check ⟨place, entry.response.status⟩)

/-- What is checked after a batch. -/
def verify (settings : Settings) (entries : List Entry) : List Statement :=
  if settings.checks then
    entries.zipIdx.filterMap fun (entry, place) => verify? settings.stopOnFailure entry place
  else []

/-- What is done about a batch once its pause is over. -/
def perform (settings : Settings) (batch : Batch Entry) : List Statement :=
  .send (batch.items.map fun entry => replay entry.request) :: verify settings batch.items

/-- What is done about batches. All but the first one wait for whole milliseconds. -/
def performAll (settings : Settings) : List (Batch Entry) → List Statement
  | [] => []
  | first :: later =>
    perform settings first ++ later.flatMap fun batch =>
      .sleep ((batch.pause.getD 0).toNat / 1000000) :: perform settings batch

/-- **The plan of a session** whose kept entries are given. -/
def plan (archive : Archive) (settings : Settings) (entries : List Entry) : Plan :=
  { checked := settings.checks
    notes := notes archive
    statements := performAll settings (Batch.split gap settings.gapThreshold entries) }

/-! ## What the script says -/

theorem call_eq_replay (request : Request) : call request = replay request := by
  rw [call, replay]
  cases Body.ofRequest request <;> rfl

theorem map_checksFrom (stops : Bool) (place : Nat) (entries : List Entry) :
    (checksFrom place entries).map (Script.Check.statement stops) =
      (entries.zipIdx place).filterMap fun (entry, place) => verify? stops entry place := by
  induction entries generalizing place with
  | nil => rfl
  | cons entry entries ih =>
    rw [checksFrom, List.zipIdx_cons, List.filterMap_cons, ← ih]
    by_cases hstatus : entry.response.status = 0
    · simp only [verify?, if_pos hstatus]
    · simp only [verify?, if_neg hstatus, List.map_cons, Script.Check.statement]
      cases stops <;> rfl

theorem statements_step (settings : Settings) (batch : Batch Entry) :
    (step settings.checks batch).statements settings.stopOnFailure =
      (batch.pause.map fun pause => .sleep (pauseMilliseconds pause)).toList ++
        perform settings batch := by
  have hcalls : (batch.items.map fun entry => call entry.request) =
      batch.items.map fun entry => replay entry.request :=
    List.map_congr_left fun entry _ => call_eq_replay entry.request
  have hchecks : (step settings.checks batch).checks.map
      (Script.Check.statement settings.stopOnFailure) = verify settings batch.items := by
    rw [step, verify]
    cases settings.checks with
    | false => rfl
    | true => exact map_checksFrom settings.stopOnFailure 0 batch.items
  rw [Script.Step.statements, hchecks, step, hcalls, Option.map_map, perform, List.append_assoc]
  rfl

/-- **The script of a session says what its plan says.** -/
theorem plan_scriptOf (archive : Archive) (settings : Settings) (entries : List Entry) :
    (scriptOf archive settings entries).plan = plan archive settings entries := by
  rw [Script.plan, scriptOf, plan, batches, List.flatMap_map]
  simp only [statements_step]
  congr 1
  cases h : Batch.split gap settings.gapThreshold entries with
  | nil => rfl
  | cons first later =>
    obtain ⟨hfirst, hlater⟩ := Batch.pauses_of_split_eq_cons h
    rw [List.flatMap_cons, performAll, hfirst]
    congr 1
    refine List.flatMap_congr fun batch hbatch => ?_
    obtain ⟨pause, hpause⟩ := hlater batch hbatch
    rw [hpause]
    rfl

/-! ## Notes -/

theorem isLineEnd_flatChar (c : Char) :
    Script.Literal.isLineEnd (Script.Comment.flatChar c) = false := by
  rw [Script.Comment.flatChar]
  split_ifs with h
  · rfl
  · rw [not_or, not_or] at h
    obtain ⟨hcontrol, hline, hparagraph⟩ := h
    have hfeed : c ≠ '\n' := by
      rintro rfl
      exact hcontrol rfl
    have hreturn : c ≠ '\r' := by
      rintro rfl
      exact hcontrol rfl
    simp [Script.Literal.isLineEnd, hfeed, hreturn, hline, hparagraph]

/-- A flattened text does not break its line. -/
theorem oneLine_flat (s : String) : OneLine (Script.Comment.flat s) := by
  intro c hc
  have hmem := Text.mem_of_mem_trim hc
  rw [String.toList_ofList] at hmem
  obtain ⟨d, -, rfl⟩ := List.mem_map.mp hmem
  exact isLineEnd_flatChar d

theorem oneLine_toolNote {label : String} (hlabel : OneLine (label ++ ": ")) (tool : Capture.Tool) :
    OneLine (toolNote label tool) :=
  hlabel.append (oneLine_flat _)

theorem oneLine_notes (archive : Archive) : ∀ note ∈ notes archive, OneLine note := by
  intro note h
  simp only [notes, List.mem_append, List.mem_map, Option.mem_toList, Option.map_eq_some_iff] at h
  rcases h with (((h | ⟨tool, -, rfl⟩) | ⟨tool, -, rfl⟩) | ⟨comment, -, rfl⟩) | ⟨page, -, rfl⟩
  · split_ifs at h
    · cases h
    · rw [List.mem_singleton.mp h]
      have hlabel : OneLine "Version: " := by decide
      exact hlabel.append (oneLine_flat _)
  · exact oneLine_toolNote (by decide) tool
  · exact oneLine_toolNote (by decide) tool
  · exact oneLine_flat comment
  · have hlabel : OneLine "Page: " := by decide
    have hdash : OneLine " - " := by decide
    exact ((hlabel.append (oneLine_flat page.id)).append hdash).append (oneLine_flat page.title)

theorem noteOneLine_payload (body : Body) : (payload body).NoteOneLine := by
  intro content h
  cases body with
  | omitted reason =>
    rw [payload, Script.Payload.note.injEq] at h
    rw [← h]
    exact oneLine_flat reason.message
  | absent | text _ | form _ =>
    rw [payload] at h
    cases h

/-- **No note of a session breaks its line.** -/
theorem notesOneLine_scriptOf (archive : Archive) (settings : Settings) (entries : List Entry) :
    (scriptOf archive settings entries).NotesOneLine where
  notes := oneLine_notes archive
  payloads := by
    intro s hs c hc
    obtain ⟨batch, -, rfl⟩ := List.mem_map.mp hs
    obtain ⟨entry, -, rfl⟩ := List.mem_map.mp hc
    exact noteOneLine_payload (Body.ofRequest entry.request)

end Conversion

/-- **The script of a session is readable back.** Whatever texts a session holds, the text of its
script is read to its end, and what is read is the plan of the kept entries. -/
theorem read_convert {archive : Archive} {settings : Settings} {text : String}
    (h : convert archive settings = .ok text) :
    ∃ entries, Conversion.kept Url.Host.reader settings archive.entries = .ok entries ∧
      Plan.read? text = some (Conversion.plan archive settings entries) := by
  obtain ⟨-, entries, hkept, rfl⟩ := convert_eq_ok_iff.mp h
  refine ⟨entries, hkept, ?_⟩
  rw [Script.read?_text (Conversion.notesOneLine_scriptOf archive settings entries),
    Conversion.plan_scriptOf]

/-- A session whose texts would end the literals and the comments that hold them. -/
def quotingSession : Archive :=
  { version := "1.2"
    creator := none
    browser := none
    comment := some "first\u2028second"
    pages := []
    entries :=
      [{ pageRef := none
         started := ⟨0, 0, 0⟩
         time := 0
         request :=
          { method := "get"
            url := ⟨"http", some ⟨"", none, .name "host.test", none⟩, "/", none, none⟩
            headers := [⟨"Accept", "\"];\n"⟩]
            cookies := []
            post := none }
         response := ⟨200, ""⟩ },
       { pageRef := none
         started := ⟨1, 500000000, 0⟩
         time := 0
         request :=
          { method := "post"
            url := ⟨"http", some ⟨"", none, .name "host.test", none⟩, "/form", none, none⟩
            headers := []
            cookies := [⟨"id", "\\"⟩]
            post := some ⟨"text/plain", some "$\x7b1\x7d", .plain, []⟩ }
         response := ⟨0, ""⟩ }] }

theorem read_convert_quotingSession :
    ∃ text, convert quotingSession { checks := true } = .ok text ∧
      Plan.read? text = some
        { checked := true
          notes := ["Version: 1.2", "first second"]
          statements :=
            [.send [⟨"GET", "http://host.test/", .absent, [], [⟨"Accept", "\"];\n"⟩]⟩],
              .check ⟨0, 200⟩,
              .sleep 1500,
              .send
                [⟨"POST", "http://host.test/form", .text "$\x7b1\x7d", [⟨"id", "\\"⟩], []⟩]] } := by
  have hhosts : ∀ e ∈ quotingSession.entries, e.host? ≠ none := by decide
  have hcheck : Settings.check { checks := true } = .ok () := rfl
  obtain ⟨text, htext⟩ := convert_of_hosts hhosts hcheck
  have hkept : Conversion.kept Url.Host.reader { checks := true } quotingSession.entries =
      .ok quotingSession.entries := rfl
  obtain ⟨entries, hentries, hread⟩ := read_convert htext
  obtain rfl := Except.ok.inj (hentries.symm.trans hkept)
  refine ⟨text, htext, hread.trans (congrArg some ?_)⟩
  decide +kernel

end SessionReplay
