import SessionReplay.Proofs.Script.Plan

/-!
# Spelling of plans

* `Plan.tokens` — the tokens that write a plan;
* `Parse.call_tokens`, `Parse.statement_tokens`: every part is read from the tokens that write it,
  whatever comes after them;
* **`Parse.plan_tokens`**: so is the whole plan.
-/

namespace SessionReplay.Script

open Capture (NamedValue)
open Token (symbols)

/-! ## The tokens of a plan -/

/-- The tokens of a property. -/
def fieldTokens (field : String × String) : List Token :=
  [.literal field.1] ++ symbols [":"] ++ [.literal field.2] ++ symbols [","]

/-- The tokens of an object under a name. -/
def objectTokens (name : String) (fields : List (String × String)) : List Token :=
  symbols [name, ":", "\x7b"] ++ fields.flatMap fieldTokens ++ symbols ["\x7d"] ++ symbols [","]

/-- The tokens of named values, if there are any. -/
def namedTokens (name : String) (values : List NamedValue) : List Token :=
  if values.isEmpty then [] else objectTokens name (values.map fun v => (v.name, v.value))

/-- The tokens of a body. -/
def payloadTokens : Payload → List Token
  | .absent => []
  | .text content => symbols ["body", ":"] ++ [.literal content] ++ symbols [","]
  | .form fields => objectTokens "body" fields
  | .note content => [.note (" body omitted: " ++ content)]

/-- The tokens of cookies and headers. -/
def paramTokens (call : Call) : List Token :=
  if call.cookies.isEmpty ∧ call.headers.isEmpty then []
  else
    symbols ["params", ":", "\x7b"] ++ namedTokens "cookies" call.cookies ++
      namedTokens "headers" call.headers ++ symbols ["\x7d", ","]

/-- The tokens of a call. -/
def callTokens (call : Call) : List Token :=
  symbols ["\x7b", "method", ":"] ++ [.literal call.method] ++ symbols [",", "url", ":"] ++
    [.literal call.url] ++ symbols [","] ++ payloadTokens call.payload ++ paramTokens call ++
    symbols ["\x7d", ","]

/-- The label of a check. -/
def checkLabel (check : Check) : String := "status is " ++ toString check.status

/-- The tokens of a check. -/
def checkTokens (check : Check) : List Token :=
  symbols ["check", "(", "res", "["] ++ [.number check.place 0] ++ symbols ["]", ",", "\x7b"] ++
    [.literal (checkLabel check)] ++
    symbols [":", "(", "r", ")", "=>", "r", ".", "status", "==="] ++ [.number check.status 0] ++
    symbols ["\x7d", ")"]

/-- The tokens of a statement. -/
def statementTokens : Statement → List Token
  | .sleep pause => symbols ["sleep", "("] ++ [.number pause 3] ++ symbols [")", ";"]
  | .send calls =>
    symbols ["req", "=", "["] ++ calls.flatMap callTokens ++ symbols ["]"] ++
      symbols [";", "res", "=", "http", ".", "batch", "(", "req", ")", ";"]
  | .check check => checkTokens check ++ symbols [";"]
  | .require check =>
    symbols ["if", "(", "!"] ++ checkTokens check ++
      symbols [")", "\x7b", "return", ";", "\x7d"]

/-- The tokens of the imports. -/
def importTokens (checked : Bool) : List Token :=
  symbols ["import", "\x7b"] ++ (if checked then symbols ["check", ","] else []) ++
    symbols ["sleep", "\x7d", "from"] ++ [.literal "k6"] ++
    symbols [";", "import", "http", "from"] ++ [.literal "k6/http"] ++ symbols [";"]

/-- The token of a note. -/
def noteTokens (note : String) : List Token := [.note (" " ++ note)]

/-- The tokens of the options after their first word, which ends the notes. -/
def optionTokens : List Token :=
  symbols ["let", "options", "=", "\x7b", "maxRedirects", ":"] ++ [.number 0 0] ++
    symbols [",", "\x7d", ";"]

/-- The tokens of the entry point. -/
def runTokens (statements : List Statement) : List Token :=
  symbols ["export", "default", "function", "(", ")", "\x7b"] ++
    (if statements.isEmpty then [] else symbols ["let", "req", ",", "res", ";"]) ++
    statements.flatMap statementTokens ++ symbols ["\x7d"]

/-- The tokens of a plan. -/
def Plan.tokens (plan : Plan) : List Token :=
  importTokens plan.checked ++ plan.notes.flatMap noteTokens ++ symbols ["export"] ++
    optionTokens ++ runTokens plan.statements

namespace Parse

variable {rest : List Token}

/-! ## Calls -/

theorem field_tokens (f : String × String) (rest : List Token) :
    field (fieldTokens f ++ rest) = some (f, rest) := by
  simp only [field, fieldTokens, List.append_assoc, bind_apply, literal_append, words_append,
    Option.bind_some, pure_apply]

theorem object_tokens (name : String) (fields : List (String × String)) (rest : List Token) :
    object name (objectTokens name fields ++ rest) = some (fields, rest) := by
  have hfields (more : List Token) :
      many field "\x7d" (fields.flatMap fieldTokens ++ (symbols ["\x7d"] ++ more)) =
        some (fields, more) :=
    many_flatMap (fun f _ => field_tokens f) (fun _ _ => rfl) more
  simp only [object, objectTokens, List.append_assoc, bind_apply, words_append, Option.bind_some,
    hfields, pure_apply]

theorem payload_tokens (body : Payload) (hbody : rest.head?.any (isSymbol "body") = false)
    (hnote : rest.head?.any isNote = false) :
    payload (payloadTokens body ++ rest) = some (body, rest) := by
  cases body with
  | absent =>
    rw [payloadTokens, List.nil_append, payload, choose_of_other hbody, choose_of_other hnote,
      pure_apply]
  | text content =>
    have hobject : ¬(payloadTokens (.text content) ++ rest).take 3 =
        symbols ["body", ":", "\x7b"] := by
      intro h
      cases h
    rw [payload, choose_of_first rfl, if_neg hobject]
    simp only [payloadTokens, List.append_assoc, bind_apply, literal_append, words_append,
      Option.bind_some, pure_apply]
  | form fields =>
    have hobject : (payloadTokens (.form fields) ++ rest).take 3 =
        symbols ["body", ":", "\x7b"] := rfl
    rw [payload, choose_of_first rfl, if_pos hobject, map_apply, payloadTokens, object_tokens]
    rfl
  | note content =>
    rw [payload, choose_of_other rfl, choose_of_first rfl, map_apply, payloadTokens,
      noteAfter_append]
    rfl

theorem named_tokens {name : String} (values : List NamedValue)
    (h : rest.head?.any (isSymbol name) = false) :
    named name (namedTokens name values ++ rest) = some (values, rest) := by
  by_cases hempty : values.isEmpty = true
  · rw [namedTokens, if_pos hempty, List.nil_append, named, choose_of_other h, pure_apply,
      List.isEmpty_iff.mp hempty]
  · have hfirst : (objectTokens name (values.map fun v => (v.name, v.value)) ++ rest).head?.any
        (isSymbol name) = true := beq_self_eq_true _
    have hvalues : (values.map fun v => (v.name, v.value)).map
        (fun field => (⟨field.1, field.2⟩ : NamedValue)) = values := by
      rw [List.map_map]
      exact List.map_id values
    rw [namedTokens, if_neg hempty, named, choose_of_first hfirst, map_apply, object_tokens,
      Option.map_some, hvalues]

/-- Named values or what comes after them begin with a word that begins neither. -/
theorem head_namedTokens {first : Token → Bool} (name : String) (values : List NamedValue)
    (hname : first (.symbol name) = false) (h : rest.head?.any first = false) :
    (namedTokens name values ++ rest).head?.any first = false := by
  rw [namedTokens]
  split_ifs
  · exact h
  · exact hname

theorem params_tokens (request : Call) (h : rest.head?.any (isSymbol "params") = false) :
    params (paramTokens request ++ rest) = some ((request.cookies, request.headers), rest) := by
  by_cases hempty : request.cookies.isEmpty ∧ request.headers.isEmpty
  · rw [paramTokens, if_pos hempty, List.nil_append, params, choose_of_other h, pure_apply,
      List.isEmpty_iff.mp hempty.1, List.isEmpty_iff.mp hempty.2]
  · have hheaders (more : List Token) :
        named "headers" (namedTokens "headers" request.headers ++
          (symbols ["\x7d", ","] ++ more)) =
          some (request.headers, symbols ["\x7d", ","] ++ more) :=
      named_tokens request.headers rfl
    have hcookies (more : List Token) :
        named "cookies" (namedTokens "cookies" request.cookies ++
          (namedTokens "headers" request.headers ++ (symbols ["\x7d", ","] ++ more))) =
          some (request.cookies, namedTokens "headers" request.headers ++
            (symbols ["\x7d", ","] ++ more)) :=
      named_tokens request.cookies (head_namedTokens "headers" request.headers rfl rfl)
    rw [paramTokens, if_neg hempty, params, choose_of_first rfl]
    simp only [List.append_assoc, bind_apply, words_append, Option.bind_some, hcookies, hheaders,
      pure_apply]

/-- The tokens after a body begin with a word. -/
theorem head_paramTokens {first : Token → Bool} (request : Call)
    (hparams : first (.symbol "params") = false) (h : rest.head?.any first = false) :
    (paramTokens request ++ rest).head?.any first = false := by
  rw [paramTokens]
  split_ifs
  · exact h
  · exact hparams

/-- **A call is read from its tokens.** -/
theorem call_tokens (request : Call) (rest : List Token) :
    call (callTokens request ++ rest) = some (request, rest) := by
  have hparams (more : List Token) :
      params (paramTokens request ++ (symbols ["\x7d", ","] ++ more)) =
        some ((request.cookies, request.headers), symbols ["\x7d", ","] ++ more) :=
    params_tokens request rfl
  have hpayload (more : List Token) :
      payload (payloadTokens request.payload ++
        (paramTokens request ++ (symbols ["\x7d", ","] ++ more))) =
        some (request.payload, paramTokens request ++ (symbols ["\x7d", ","] ++ more)) :=
    payload_tokens request.payload (head_paramTokens request rfl rfl)
      (head_paramTokens request rfl rfl)
  simp only [call, callTokens, List.append_assoc, bind_apply, literal_append, words_append,
    Option.bind_some, hpayload, hparams, pure_apply]

/-! ## Statements -/

theorem check_tokens (c : Check) (rest : List Token) :
    check (checkTokens c ++ rest) = some (c, rest) := by
  have hlabel (more : List Token) :
      (guard (checkLabel c = "status is " ++ toString c.status) : Parse Unit) more =
        some ((), more) := by
    rw [checkLabel, guard, if_pos rfl, pure_apply]
  simp only [check, checkTokens, List.append_assoc, bind_apply, literal_append, natural_append,
    words_append, Option.bind_some, hlabel, pure_apply]

/-- **A statement is read from its tokens.** -/
theorem statement_tokens (s : Statement) (rest : List Token) :
    statement (statementTokens s ++ rest) = some (s, rest) := by
  cases s with
  | sleep pause =>
    rw [statement, choose_of_first rfl]
    simp only [statementTokens, List.append_assoc, bind_apply, milliseconds_append, words_append,
      Option.bind_some, pure_apply]
  | send calls =>
    have hcalls (more : List Token) :
        many call "]" (calls.flatMap callTokens ++ (symbols ["]"] ++ more)) =
          some (calls, more) :=
      many_flatMap (fun c _ => call_tokens c) (fun _ _ => rfl) more
    rw [statement, choose_of_other rfl, choose_of_first rfl]
    simp only [statementTokens, List.append_assoc, bind_apply, hcalls, words_append,
      Option.bind_some, pure_apply]
  | check c =>
    rw [statement, choose_of_other rfl, choose_of_other rfl, choose_of_other rfl]
    simp only [statementTokens, List.append_assoc, bind_apply, check_tokens, words_append,
      Option.bind_some, pure_apply]
  | require c =>
    rw [statement, choose_of_other rfl, choose_of_other rfl, choose_of_first rfl]
    simp only [statementTokens, List.append_assoc, bind_apply, check_tokens, words_append,
      Option.bind_some, pure_apply]

/-! ## Plans -/

theorem imports_tokens (checked : Bool) (rest : List Token) :
    imports (importTokens checked ++ rest) = some (checked, rest) := by
  cases checked with
  | false => rfl
  | true => rfl

theorem options_tokens (rest : List Token) : options (optionTokens ++ rest) = some ((), rest) :=
  rfl

theorem statements_tokens (ss : List Statement) (rest : List Token) :
    statements ((if ss.isEmpty then [] else symbols ["let", "req", ",", "res", ";"]) ++
      (ss.flatMap statementTokens ++ (symbols ["\x7d"] ++ rest))) = some (ss, rest) := by
  by_cases hempty : ss.isEmpty = true
  · rw [if_pos hempty, List.isEmpty_iff.mp hempty]
    rfl
  · have hstatements : many statement "\x7d" (ss.flatMap statementTokens ++
        (symbols ["\x7d"] ++ rest)) = some (ss, rest) := by
      refine many_flatMap (fun s _ => statement_tokens s) (fun s _ => ?_) rest
      cases s <;> rfl
    rw [if_neg hempty, statements, choose_of_first rfl, bind_apply, words_append,
      Option.bind_some, hstatements]

/-- **A plan is read from its tokens.** -/
theorem plan_tokens (p : Plan) : plan p.tokens = some (p, []) := by
  have hnotes (more : List Token) :
      many (noteAfter " ") "export" (p.notes.flatMap noteTokens ++ (symbols ["export"] ++ more)) =
        some (p.notes, more) :=
    many_flatMap (fun n _ => noteAfter_append " " n) (fun _ _ => rfl) more
  have hstatements := statements_tokens p.statements []
  rw [List.append_nil] at hstatements
  simp only [plan, Plan.tokens, runTokens, List.append_assoc, bind_apply, imports_tokens, hnotes,
    options_tokens, words_append, Option.bind_some, hstatements, pure_apply]

end Parse

end SessionReplay.Script
