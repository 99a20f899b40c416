import SessionReplay.Proofs.Script.Spelling

/-!
# Reading of written scripts

A script is written line by line, and each of its lines holds whole tokens. So its text has the
tokens of its plan, whatever its literals hold, and its notes too, as long as these stay on one
line.

* `Script.plan` — what a script says;
* `Script.NotesOneLine` — no note breaks its line;
* `Written` — lines hold tokens;
* `Call.text`, `Call.read?` — the text of a call, and the call that a text writes;
* `written_call`, `written_step`, `written_lines`: the tokens of what is written;
* **`Call.read?_text`**, **`read?_text`**: a call is read from its text, and the plan of a script.
-/

namespace SessionReplay.Script

open Capture (NamedValue)
open Token (symbols Reads)

/-! ## The plan of a script -/

/-- A check as a statement. -/
def Check.statement (stops : Bool) (check : Check) : Statement :=
  if stops then .require check else .check check

/-- The statements of a step. -/
def Step.statements (stops : Bool) (step : Step) : List Statement :=
  (step.pause.map .sleep).toList ++ [.send step.calls] ++ step.checks.map (Check.statement stops)

/-- The plan of a script. -/
def plan (script : Script) : Plan :=
  { checked := script.checked
    notes := script.notes
    statements := script.steps.flatMap (Step.statements script.stops) }

/-- A text without line ends. -/
def OneLine (s : String) : Prop :=
  ∀ c ∈ s.toList, Literal.isLineEnd c = false

instance (s : String) : Decidable (OneLine s) :=
  List.decidableBAll (fun c => Literal.isLineEnd c = false) s.toList

theorem OneLine.append {s t : String} (hs : OneLine s) (ht : OneLine t) : OneLine (s ++ t) := by
  intro c hc
  rw [String.toList_append, List.mem_append] at hc
  exact hc.elim (hs c) (ht c)

/-- A body whose note, if it is one, does not break its line. -/
def Payload.NoteOneLine (payload : Payload) : Prop :=
  ∀ content, payload = .note content → OneLine content

/-- No note of a script breaks its line. -/
structure NotesOneLine (script : Script) : Prop where
  notes : ∀ note ∈ script.notes, OneLine note
  payloads : ∀ step ∈ script.steps, ∀ call ∈ step.calls, call.payload.NoteOneLine

/-! ## Lines -/

variable {s t content : String} {tokens more : List Token} {mode next last : Token.Mode}
  {ls ms : List Line}

theorem reads_text (hs : Reads mode s.toList tokens next) (ht : Reads next t.toList more last) :
    Reads mode (s ++ t).toList (tokens ++ more) last := by
  rw [String.toList_append]
  exact hs.append ht

/-- Lines hold tokens. -/
def Written (ls : List Line) (tokens : List Token) : Prop :=
  Reads .between (ls.flatMap fun line => line.text.toList) tokens .between

theorem Written.append (hls : Written ls tokens) (hms : Written ms more) :
    Written (ls ++ ms) (tokens ++ more) := by
  rw [Written, List.flatMap_append]
  exact Reads.append hls hms

theorem Written.flatMap {α : Type} {write : α → List Line} {spell : α → List Token} {xs : List α}
    (h : ∀ x ∈ xs, Written (write x) (spell x)) :
    Written (xs.flatMap write) (xs.flatMap spell) := by
  rw [Written, List.flatMap_assoc]
  exact Token.reads_flatMap h

theorem Written.map {α : Type} {write : α → Line} {spell : α → List Token} {xs : List α}
    (h : ∀ x ∈ xs, Written [write x] (spell x)) :
    Written (xs.map write) (xs.flatMap spell) := by
  rw [← List.flatMap_singleton' (xs.map write), List.flatMap_map]
  exact Written.flatMap h

theorem reads_indentation (depth : Nat) :
    Reads .between (String.ofList (List.replicate (4 * depth) ' ')).toList [] .between := by
  rw [String.toList_ofList]
  exact Token.reads_spaces (4 * depth)

/-- The tokens of a line are those of its content. -/
theorem written_line (depth : Nat) (h : Reads .between s.toList tokens .between) :
    Written [⟨depth, s⟩] tokens := by
  have hend : Reads .between "\n".toList [] .between := rfl
  have hall := reads_text (reads_text (reads_indentation depth) h) hend
  rw [List.append_nil] at hall
  rw [Written, List.flatMap_singleton]
  exact hall

theorem written_note (depth : Nat) (h : OneLine s) :
    Written [noteLine depth s] (noteTokens s) := by
  have hslashes : "// " ++ s = "//" ++ (" " ++ s) := by
    rw [← String.append_assoc]
    rfl
  have hnote : Reads .between ("//" ++ (" " ++ s) ++ "\n").toList (noteTokens s) .between := by
    refine Token.reads_note fun c hc => ?_
    rw [String.toList_append, List.mem_append] at hc
    rcases hc with hc | hc
    · rw [List.mem_singleton.mp hc]
      rfl
    · exact h c hc
  rw [Written, List.flatMap_singleton, noteLine, Line.text, hslashes, String.append_assoc]
  exact reads_text (reads_indentation depth) hnote

/-! ## Calls -/

/-- The tokens of a line that ends with a literal and a comma. -/
theorem written_value (depth : Nat) (value : String) (h : Reads .between s.toList tokens .between) :
    Written [⟨depth, s ++ Literal.text value ++ ","⟩]
      (tokens ++ [.literal value] ++ symbols [","]) := by
  have hcomma : Reads .between ",".toList (symbols [","]) .between := rfl
  exact written_line depth (reads_text (reads_text h (Token.reads_literal value)) hcomma)

theorem written_property (depth : Nat) (field : String × String) :
    Written [propertyLine depth field.1 field.2] (fieldTokens field) := by
  have hcolon : Reads .between ": ".toList (symbols [":"]) .between := rfl
  exact written_value depth field.2 (reads_text (Token.reads_literal field.1) hcolon)

theorem written_object (depth : Nat) (name : String) (fields : List (String × String))
    (hname : Reads .between (name ++ ": \x7b").toList (symbols [name, ":", "\x7b"]) .between) :
    Written (objectLines depth name fields) (objectTokens name fields) := by
  have hopen : Written [⟨depth, name ++ ": \x7b"⟩] (symbols [name, ":", "\x7b"]) :=
    written_line depth hname
  have hfields : Written (fields.map fun field => propertyLine (depth + 1) field.1 field.2)
      (fields.flatMap fieldTokens) :=
    Written.map fun field _ => written_property (depth + 1) field
  have hclose : Written [⟨depth, "\x7d,"⟩] (symbols ["\x7d"] ++ symbols [","]) :=
    written_line depth rfl
  have hall := (hopen.append hfields).append hclose
  rwa [← List.append_assoc] at hall

theorem written_named (depth : Nat) (name : String) (values : List NamedValue)
    (hname : Reads .between (name ++ ": \x7b").toList (symbols [name, ":", "\x7b"]) .between) :
    Written (namedLines depth name values) (namedTokens name values) := by
  rw [namedLines, namedTokens]
  split_ifs
  · rfl
  · exact written_object depth name _ hname

theorem written_payload {payload : Payload} (h : payload.NoteOneLine) :
    Written (payloadLines payload) (payloadTokens payload) := by
  cases payload with
  | absent => rfl
  | text content => exact written_value 3 content rfl
  | form fields => exact written_object 3 "body" fields rfl
  | note content =>
    have hlabel : OneLine "body omitted: " := by decide
    have hall := written_note 3 (hlabel.append (h content rfl))
    rwa [noteTokens, ← String.append_assoc] at hall

theorem written_params (call : Call) : Written (paramLines call) (paramTokens call) := by
  rw [paramLines, paramTokens]
  split_ifs
  · rfl
  · have hopen : Written [⟨3, "params: \x7b"⟩] (symbols ["params", ":", "\x7b"]) :=
      written_line 3 rfl
    have hclose : Written [⟨3, "\x7d,"⟩] (symbols ["\x7d", ","]) := written_line 3 rfl
    exact ((hopen.append (written_named 4 "cookies" call.cookies rfl)).append
      (written_named 4 "headers" call.headers rfl)).append hclose

/-- **A call is written as its tokens.** -/
theorem written_call {call : Call} (h : call.payload.NoteOneLine) :
    Written (callLines call) (callTokens call) := by
  have hopen : Written [⟨2, "\x7b"⟩] (symbols ["\x7b"]) := written_line 2 rfl
  have hmethod : Written [⟨3, "method: " ++ Literal.text call.method ++ ","⟩]
      (symbols ["method", ":"] ++ [.literal call.method] ++ symbols [","]) :=
    written_value 3 call.method rfl
  have hurl : Written [⟨3, "url: " ++ Literal.text call.url ++ ","⟩]
      (symbols ["url", ":"] ++ [.literal call.url] ++ symbols [","]) :=
    written_value 3 call.url rfl
  have hclose : Written [⟨2, "\x7d,"⟩] (symbols ["\x7d", ","]) := written_line 2 rfl
  exact ((((hopen.append hmethod).append hurl).append (written_payload h)).append
    (written_params call)).append hclose

/-- The text of a call. -/
def Call.text (call : Call) : String :=
  String.join ((callLines call).map Line.text)

/-- **The call that a text writes**, if the whole text is one. -/
def Call.read? (text : String) : Option Call := do
  let tokens ← Token.ofText? text
  let (call, rest) ← Parse.call tokens
  if rest.isEmpty then some call else none

theorem ofText?_lines (h : Written ls tokens) :
    Token.ofText? (String.join (ls.map Line.text)) = some tokens := by
  apply Token.ofText?_eq_some
  rw [String.toList_join, List.flatMap_map]
  exact h

/-- **A call is read from its text.** -/
theorem Call.read?_text {call : Call} (h : call.payload.NoteOneLine) :
    Call.read? call.text = some call := by
  have hcall := Parse.call_tokens call []
  rw [List.append_nil] at hcall
  simp only [Call.read?, Call.text, ofText?_lines (written_call h), Option.bind_eq_bind,
    Option.bind_some, hcall, List.isEmpty_nil, if_true]

/-! ## Steps -/

theorem reads_check (check : Check) :
    Reads .between (checkText check).toList (checkTokens check) .between := by
  have hopen : Reads .between "check(res[".toList (symbols ["check", "(", "res", "["]) .between :=
    rfl
  have hplace : Reads (.whole check.place) "], \x7b ".toList
      ([.number check.place 0] ++ symbols ["]", ",", "\x7b"]) .between := rfl
  have hstatus : Reads .between ": (r) => r.status === ".toList
      (symbols [":", "(", "r", ")", "=>", "r", ".", "status", "==="]) .between := rfl
  have hclose : Reads (.whole check.status) " \x7d)".toList
      ([.number check.status 0] ++ symbols ["\x7d", ")"]) .between := rfl
  have hresponse := reads_text (reads_text hopen (Token.reads_natural check.place)) hplace
  have hlabel := reads_text (reads_text hresponse (Token.reads_literal (checkLabel check))) hstatus
  have hall := reads_text (reads_text hlabel (Token.reads_natural check.status)) hclose
  simp only [List.append_assoc, List.nil_append] at hall
  simp only [checkTokens, List.append_assoc]
  exact hall

theorem written_check (stops : Bool) (check : Check) :
    Written [checkLine stops check] (statementTokens (check.statement stops)) := by
  cases stops with
  | false =>
    have hend : Reads .between ";".toList (symbols [";"]) .between := rfl
    exact written_line 1 (reads_text (reads_check check) hend)
  | true =>
    have hif : Reads .between "if (!".toList (symbols ["if", "(", "!"]) .between := rfl
    have hreturn : Reads .between ") \x7b return; \x7d".toList
        (symbols [")", "\x7b", "return", ";", "\x7d"]) .between := rfl
    exact written_line 1 (reads_text (reads_text hif (reads_check check)) hreturn)

theorem written_pause (pause : Nat) :
    Written [⟨1, "sleep(" ++ seconds pause ++ ");"⟩] (statementTokens (.sleep pause)) := by
  have hopen : Reads .between "sleep(".toList (symbols ["sleep", "("]) .between := rfl
  have hclose : Reads (.fraction pause 3) ");".toList ([.number pause 3] ++ symbols [")", ";"])
      .between := rfl
  have hall := reads_text (reads_text hopen (Token.reads_seconds pause)) hclose
  exact written_line 1 hall

theorem written_send {calls : List Call} (h : ∀ call ∈ calls, call.payload.NoteOneLine) :
    Written ([⟨1, "req = ["⟩] ++ calls.flatMap callLines ++
      [⟨1, "];"⟩, ⟨1, "res = http.batch(req);"⟩]) (statementTokens (.send calls)) := by
  have hopen : Written [⟨1, "req = ["⟩] (symbols ["req", "=", "["]) := written_line 1 rfl
  have hcalls : Written (calls.flatMap callLines) (calls.flatMap callTokens) :=
    Written.flatMap fun call hcall => written_call (h call hcall)
  have hclose : Written [⟨1, "];"⟩] (symbols ["]", ";"]) := written_line 1 rfl
  have hbatch : Written [⟨1, "res = http.batch(req);"⟩]
      (symbols ["res", "=", "http", ".", "batch", "(", "req", ")", ";"]) := written_line 1 rfl
  have hall := hopen.append (hcalls.append (hclose.append hbatch))
  simp only [statementTokens, List.append_assoc]
  exact hall

/-- **A step is written as its statements.** -/
theorem written_step {step : Step} (stops : Bool)
    (h : ∀ call ∈ step.calls, call.payload.NoteOneLine) :
    Written (stepLines stops step) ((step.statements stops).flatMap statementTokens) := by
  have hpause : Written
      (step.pause.map fun pause => (⟨1, "sleep(" ++ seconds pause ++ ");"⟩ : Line)).toList
      ((step.pause.map Statement.sleep).toList.flatMap statementTokens) := by
    cases step.pause with
    | none => rfl
    | some pause =>
      rw [Option.map_some, Option.map_some, Option.toList_some, Option.toList_some,
        List.flatMap_singleton]
      exact written_pause pause
  have hchecks : Written (step.checks.map (checkLine stops))
      ((step.checks.map (Check.statement stops)).flatMap statementTokens) := by
    rw [List.flatMap_map]
    exact Written.map fun check _ => written_check stops check
  have hall := (hpause.append (written_send h)).append hchecks
  rw [Step.statements, List.flatMap_append, List.flatMap_append, List.flatMap_singleton]
  simp only [List.append_assoc] at hall
  simp only [stepLines, List.append_assoc]
  exact hall

/-! ## Whole scripts -/

theorem written_imports (checked : Bool) :
    Written (importLines checked) (importTokens checked) := by
  have hfirst : Written
      [⟨0, if checked then "import \x7b check, sleep \x7d from \"k6\";"
        else "import \x7b sleep \x7d from \"k6\";"⟩]
      (symbols ["import", "\x7b"] ++ (if checked then symbols ["check", ","] else []) ++
        symbols ["sleep", "\x7d", "from"] ++ [.literal "k6"] ++ symbols [";"]) := by
    cases checked with
    | false => exact written_line 0 rfl
    | true => exact written_line 0 rfl
  have hsecond : Written [⟨0, "import http from \"k6/http\";"⟩]
      (symbols ["import", "http", "from"] ++ [.literal "k6/http"] ++ symbols [";"]) :=
    written_line 0 rfl
  have hblank : Written [Line.blank] [] := written_line 0 rfl
  have hall := hfirst.append (hsecond.append hblank)
  simp only [List.append_assoc] at hall
  simp only [importTokens, List.append_assoc]
  exact hall

theorem written_notes {notes : List String} (h : ∀ note ∈ notes, OneLine note) :
    Written (noteLines notes) (notes.flatMap noteTokens) := by
  rw [noteLines]
  split_ifs with hempty
  · rw [List.isEmpty_iff.mp hempty]
    rfl
  · have hnotes : Written (notes.map (noteLine 0)) (notes.flatMap noteTokens) :=
      Written.map fun note hnote => written_note 0 (h note hnote)
    have hblank : Written [Line.blank] [] := written_line 0 rfl
    have hall := hnotes.append hblank
    rwa [List.append_nil] at hall

theorem written_options : Written optionLines (symbols ["export"] ++ optionTokens) := by
  have hopen : Written [⟨0, "export let options = \x7b"⟩]
      (symbols ["export", "let", "options", "=", "\x7b"]) := written_line 0 rfl
  have hredirects : Written [⟨1, "maxRedirects: 0,"⟩]
      (symbols ["maxRedirects", ":"] ++ [.number 0 0] ++ symbols [","]) := written_line 1 rfl
  have hclose : Written [⟨0, "\x7d;"⟩] (symbols ["\x7d", ";"]) := written_line 0 rfl
  have hblank : Written [Line.blank] [] := written_line 0 rfl
  exact ((hopen.append hredirects).append hclose).append hblank

/-- Every step sends a batch, so that there are steps as soon as there are statements. -/
theorem isEmpty_flatMap_statements (stops : Bool) (steps : List Step) :
    (steps.flatMap (Step.statements stops)).isEmpty = steps.isEmpty := by
  cases steps with
  | nil => rfl
  | cons step steps =>
    have hsend : Statement.send step.calls ∈ (step :: steps).flatMap (Step.statements stops) := by
      rw [List.flatMap_cons, Step.statements]
      simp
    exact List.isEmpty_eq_false_iff_exists_mem.mpr ⟨_, hsend⟩

theorem written_run {steps : List Step} (stops : Bool)
    (h : ∀ step ∈ steps, ∀ call ∈ step.calls, call.payload.NoteOneLine) :
    Written (runLines stops steps) (runTokens (steps.flatMap (Step.statements stops))) := by
  have hopen : Written [⟨0, "export default function() \x7b"⟩]
      (symbols ["export", "default", "function", "(", ")", "\x7b"]) := written_line 0 rfl
  have hlet : Written (if steps.isEmpty then [] else [⟨1, "let req, res;"⟩])
      (if steps.isEmpty then [] else symbols ["let", "req", ",", "res", ";"]) := by
    split_ifs
    · rfl
    · exact written_line 1 rfl
  have hsteps : Written (steps.flatMap (stepLines stops))
      ((steps.flatMap (Step.statements stops)).flatMap statementTokens) := by
    rw [List.flatMap_assoc]
    exact Written.flatMap fun step hstep => written_step stops (h step hstep)
  have hclose : Written [⟨0, "\x7d"⟩] (symbols ["\x7d"]) := written_line 0 rfl
  rw [runTokens, isEmpty_flatMap_statements]
  exact ((hopen.append hlet).append hsteps).append hclose

/-- **A script is written as the tokens of its plan.** -/
theorem written_lines {script : Script} (h : script.NotesOneLine) :
    Written script.lines script.plan.tokens := by
  have hhead := (written_imports script.checked).append (written_notes h.notes)
  have hall := (hhead.append written_options).append (written_run script.stops h.payloads)
  rw [← List.append_assoc] at hall
  exact hall

theorem ofText?_text {script : Script} (h : script.NotesOneLine) :
    Token.ofText? script.text = some script.plan.tokens :=
  ofText?_lines (written_lines h)

/-- **The plan of a script is read from its text.** -/
theorem read?_text {script : Script} (h : script.NotesOneLine) :
    Plan.read? script.text = some script.plan := by
  simp only [Plan.read?, ofText?_text h, Option.bind_eq_bind, Option.bind_some,
    Parse.plan_tokens, List.isEmpty_nil, if_true]

end SessionReplay.Script
