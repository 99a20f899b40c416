import SessionReplay.Proofs.Script.Token

/-!
# Reading of scripts

The tokens of a script are read by recursive descent, and one token of lookahead decides which way
to go. What is read is a plan: what a run does, one statement after the other. Whatever is not in
its place is refused, and so are tokens that are left over.

* `Statement`, `Plan` — what a script does;
* `Parse` — readers of tokens, put together by `Parse.expect`, `Parse.choose` and `Parse.many`;
* `Plan.read?` — the plan that a text writes;
* `Parse.many_flatMap`: a list is read item by item.
-/

namespace SessionReplay.Script

open Capture (NamedValue)
open Token (symbols)

/-! ## Plans -/

/-- What a run does next: it pauses for some milliseconds, sends a batch of calls, checks a
response, or ends unless a check succeeds. -/
inductive Statement where
  | sleep (milliseconds : Nat)
  | send (calls : List Call)
  | check (check : Check)
  | require (check : Check)
  deriving DecidableEq, Repr

/-- What a script says: whether it imports checks, its notes, and what a run does. -/
structure Plan where
  checked : Bool
  notes : List String
  statements : List Statement
  deriving DecidableEq, Repr

/-! ## Readers of tokens -/

/-- A reader of tokens. -/
abbrev Parse (α : Type) : Type := StateT (List Token) Option α

namespace Parse

variable {α β : Type}

/-- The next tokens are given. -/
def expect (expected : List Token) : Parse Unit := fun tokens =>
  if tokens.take expected.length = expected then some ((), tokens.drop expected.length) else none

/-- The next tokens are words and signs. -/
def words (texts : List String) : Parse Unit := expect (symbols texts)

/-- The next token decides between two readers. -/
def choose (first : Token → Bool) (p q : Parse α) : Parse α := fun tokens =>
  if tokens.head?.any first then p tokens else q tokens

/-- A token is a word or sign. -/
def isSymbol (text : String) (token : Token) : Bool := token == .symbol text

/-- A token is a comment. -/
def isNote : Token → Bool
  | .note _ => true
  | _ => false

/-- Items up to a closing word or sign. Every item takes at least one token. -/
def many (item : Parse α) (closing : String) (tokens : List Token) :
    Option (List α × List Token) :=
  if tokens.head?.any (isSymbol closing) then some ([], tokens.tail)
  else match item tokens with
    | none => none
    | some (value, rest) =>
      if rest.length < tokens.length then
        (many item closing rest).map fun (values, last) => (value :: values, last)
      else none
  termination_by tokens.length

/-- A literal. -/
def literal : Parse String
  | .literal content :: rest => some (content, rest)
  | _ => none

/-- A natural number. -/
def natural : Parse Nat
  | .number value 0 :: rest => some (value, rest)
  | _ => none

/-- A number of seconds, in milliseconds. -/
def milliseconds : Parse Nat
  | .number digits places :: rest =>
    if 10 ^ places ∣ 1000 * digits then some (1000 * digits / 10 ^ places, rest) else none
  | _ => none

/-- What a comment says after its first characters, which are given. -/
def noteAfter (start : String) : Parse String
  | .note content :: rest =>
    if content.toList.take start.length = start.toList then
      some (String.ofList (content.toList.drop start.length), rest)
    else none
  | _ => none

/-! ## The grammar -/

/-- A property whose value is a text. -/
def field : Parse (String × String) := do
  let name ← literal
  words [":"]
  let value ← literal
  words [","]
  return (name, value)

/-- An object of texts under a name. -/
def object (name : String) : Parse (List (String × String)) := do
  words [name, ":", "\x7b"]
  let fields ← many field "\x7d"
  words [","]
  return fields

/-- A body, which may be a comment that says why there is none. -/
def payload : Parse Payload :=
  choose (isSymbol "body")
    (fun tokens =>
      if tokens.take 3 = symbols ["body", ":", "\x7b"] then (.form <$> object "body") tokens
      else (do
        words ["body", ":"]
        let content ← literal
        words [","]
        return .text content : Parse Payload) tokens)
    (choose isNote (.note <$> noteAfter " body omitted: ") (pure .absent))

/-- Named values under a name, if they are there. -/
def named (name : String) : Parse (List NamedValue) :=
  choose (isSymbol name)
    (List.map (fun field => ⟨field.1, field.2⟩) <$> object name)
    (pure [])

/-- Cookies and headers, if they are there. -/
def params : Parse (List NamedValue × List NamedValue) :=
  choose (isSymbol "params")
    (do
      words ["params", ":", "\x7b"]
      let cookies ← named "cookies"
      let headers ← named "headers"
      words ["\x7d", ","]
      return (cookies, headers))
    (pure ([], []))

/-- A call. -/
def call : Parse Call := do
  words ["\x7b", "method", ":"]
  let method ← literal
  words [",", "url", ":"]
  let url ← literal
  words [","]
  let payload ← payload
  let (cookies, headers) ← params
  words ["\x7d", ","]
  return { method, url, payload, cookies, headers }

/-- A check as an expression. Its label names the status. -/
def check : Parse Check := do
  words ["check", "(", "res", "["]
  let place ← natural
  words ["]", ",", "\x7b"]
  let label ← literal
  words [":", "(", "r", ")", "=>", "r", ".", "status", "==="]
  let status ← natural
  words ["\x7d", ")"]
  guard (label = "status is " ++ toString status)
  return { place, status }

/-- A statement. -/
def statement : Parse Statement :=
  choose (isSymbol "sleep")
    (do
      words ["sleep", "("]
      let pause ← milliseconds
      words [")", ";"]
      return .sleep pause) <|
  choose (isSymbol "req")
    (do
      words ["req", "=", "["]
      let calls ← many call "]"
      words [";", "res", "=", "http", ".", "batch", "(", "req", ")", ";"]
      return .send calls) <|
  choose (isSymbol "if")
    (do
      words ["if", "(", "!"]
      let condition ← check
      words [")", "\x7b", "return", ";", "\x7d"]
      return .require condition)
    (do
      let condition ← check
      words [";"]
      return .check condition)

/-- The imports. -/
def imports : Parse Bool := do
  words ["import", "\x7b"]
  let checked ← choose (isSymbol "check")
    (do
      words ["check", ","]
      return true)
    (pure false)
  words ["sleep", "\x7d", "from"]
  expect [.literal "k6"]
  words [";", "import", "http", "from"]
  expect [.literal "k6/http"]
  words [";"]
  return checked

/-- The rest of the options, under which no redirection is followed. -/
def options : Parse Unit := do
  words ["let", "options", "=", "\x7b", "maxRedirects", ":"]
  expect [.number 0 0]
  words [",", "\x7d", ";"]

/-- The body of the entry point. -/
def statements : Parse (List Statement) :=
  choose (isSymbol "let")
    (do
      words ["let", "req", ",", "res", ";"]
      many statement "\x7d")
    (do
      words ["\x7d"]
      return [])

/-- A whole script. -/
def plan : Parse Plan := do
  let checked ← imports
  let notes ← many (noteAfter " ") "export"
  options
  words ["export", "default", "function", "(", ")", "\x7b"]
  let statements ← statements
  return { checked, notes, statements }

/-! ## One reader after the other -/

variable {tokens rest more : List Token}

theorem pure_apply (x : α) (tokens : List Token) :
    (pure x : Parse α) tokens = some (x, tokens) := rfl

theorem bind_apply (p : Parse α) (f : α → Parse β) (tokens : List Token) :
    (p >>= f) tokens = (p tokens).bind fun next => f next.1 next.2 := rfl

theorem map_apply (f : α → β) (p : Parse α) (tokens : List Token) :
    (f <$> p) tokens = (p tokens).map fun next => (f next.1, next.2) := by
  change (p tokens).bind _ = _
  rw [Option.map_eq_bind]
  rfl

theorem expect_append (expected rest : List Token) :
    expect expected (expected ++ rest) = some ((), rest) := by
  rw [expect, List.take_left, List.drop_left, if_pos rfl]

theorem words_append (texts : List String) (rest : List Token) :
    words texts (symbols texts ++ rest) = some ((), rest) :=
  expect_append (symbols texts) rest

theorem literal_append (content : String) (rest : List Token) :
    literal ([.literal content] ++ rest) = some (content, rest) := rfl

theorem natural_append (value : Nat) (rest : List Token) :
    natural ([.number value 0] ++ rest) = some (value, rest) := rfl

theorem milliseconds_append (value : Nat) (rest : List Token) :
    milliseconds ([.number value 3] ++ rest) = some (value, rest) := by
  have hdvd : 10 ^ 3 ∣ 1000 * value := Dvd.intro value rfl
  have hdiv : 1000 * value / 10 ^ 3 = value := Nat.mul_div_cancel_left value (by decide)
  rw [List.singleton_append, milliseconds, if_pos hdvd, hdiv]

theorem noteAfter_append (start content : String) (rest : List Token) :
    noteAfter start ([.note (start ++ content)] ++ rest) = some (content, rest) := by
  have hlength : start.length = start.toList.length := String.length_toList.symm
  rw [List.singleton_append, noteAfter, String.toList_append, hlength, List.take_left,
    List.drop_left, if_pos rfl, String.ofList_toList]

theorem choose_of_first {first : Token → Bool} {p q : Parse α}
    (h : tokens.head?.any first = true) : choose first p q tokens = p tokens := by
  rw [choose, if_pos h]

theorem choose_of_other {first : Token → Bool} {p q : Parse α}
    (h : tokens.head?.any first = false) : choose first p q tokens = q tokens := by
  rw [choose, h, if_neg Bool.false_ne_true]

/-- **A list is read item by item**, if no item begins as the list ends. -/
theorem many_flatMap {item : Parse α} {closing : String} {spell : α → List Token} {xs : List α}
    (hitem : ∀ x ∈ xs, ∀ rest, item (spell x ++ rest) = some (x, rest))
    (hfirst : ∀ x ∈ xs, (spell x).head?.any (fun token => !isSymbol closing token) = true)
    (rest : List Token) :
    many item closing (xs.flatMap spell ++ (symbols [closing] ++ rest)) = some (xs, rest) := by
  induction xs with
  | nil =>
    have hclosing : (symbols [closing] ++ rest).head?.any (isSymbol closing) = true :=
      beq_self_eq_true _
    rw [List.flatMap_nil, List.nil_append, many, if_pos hclosing]
    rfl
  | cons x xs ih =>
    rw [List.forall_mem_cons] at hitem hfirst
    obtain ⟨token, tokens, hspell⟩ : ∃ token tokens, spell x = token :: tokens := by
      cases h : spell x with
      | nil => rw [h] at hfirst; cases hfirst.1
      | cons token tokens => exact ⟨token, tokens, rfl⟩
    have hopen : ¬(spell x ++ (xs.flatMap spell ++ (symbols [closing] ++ rest))).head?.any
        (isSymbol closing) = true := by
      have h := hfirst.1
      rw [hspell, List.head?_cons, Option.any_some, Bool.not_eq_true'] at h
      rw [hspell, List.cons_append, List.head?_cons, Option.any_some, h]
      exact Bool.false_ne_true
    -- an item takes its first token at least
    have hshorter : (xs.flatMap spell ++ (symbols [closing] ++ rest)).length <
        (spell x ++ (xs.flatMap spell ++ (symbols [closing] ++ rest))).length := by
      simp only [hspell, List.cons_append, List.length_cons, List.length_append]
      omega
    rw [List.flatMap_cons, List.append_assoc, many, if_neg hopen, hitem.1]
    simp only [if_pos hshorter, ih hitem.2 hfirst.2, Option.map_some]

end Parse

/-- **The plan that a text writes**, if the whole text is a script. -/
def Plan.read? (text : String) : Option Plan := do
  let tokens ← Token.ofText? text
  let (plan, rest) ← Parse.plan tokens
  if rest.isEmpty then some plan else none

end SessionReplay.Script
