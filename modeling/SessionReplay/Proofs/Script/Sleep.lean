import Mathlib.Algebra.Order.Field.Rat
import Mathlib.Data.List.Basic
import SessionReplay.Proofs.Script.ReadBack

/-!
# Sleeps in the text of a script

* `sleepArgument?`, `sleepArguments` — what stands between the parentheses of the calls of `sleep`
  in a text;
* `WritesDecimal` — a text is a decimal with a number of places after its point;
* `Silent` — a line that does not break and does not call `sleep`;
* `writesDecimal_seconds`: milliseconds are written as a decimal with three places;
* **`sleepArguments_text`**: the sleeps of a script are the pauses of its steps.
-/

namespace SessionReplay.Script

open Capture (NamedValue)

/-! ## Calls of `sleep` -/

/-- What stands between the parentheses of a line that calls `sleep`. -/
def sleepArgument? (line : List Char) : Option String :=
  let code := line.dropWhile (· == ' ')
  if "sleep(".toList.isPrefixOf code then
    some (String.ofList ((code.drop "sleep(".length).takeWhile (· != ')')))
  else none

/-- The arguments of the calls of `sleep` in a text, line by line. -/
def sleepArguments (text : String) : List String :=
  (text.toList.splitOn '\n').filterMap sleepArgument?

/-! ## Decimals -/

/-- A text is a decimal with a number of places: digits, a point and as many digits as there are
places. No zero stands before other digits. -/
def WritesDecimal (places : Nat) (text : String) (value : ℚ) : Prop :=
  ∃ whole fraction : List Char, text.toList = whole ++ '.' :: fraction ∧ whole ≠ [] ∧
    (whole.head? = some '0' → whole.length = 1) ∧ (∀ c ∈ whole ++ fraction, c.isDigit = true) ∧
      fraction.length = places ∧ value = Nat.ofDigitChars 10 (whole ++ fraction) 0 / 10 ^ places

theorem head?_toDigits {n : Nat} (hn : 0 < n) : (Nat.toDigits 10 n).head? ≠ some '0' := by
  induction n using Nat.strong_induction_on with
  | h n ih =>
    rcases Nat.lt_or_ge n 10 with hlt | hge
    · rw [Nat.toDigits_of_lt_base hlt]
      interval_cases n <;> decide
    · have hpos : 0 < n / 10 := by omega
      have hne : Nat.toDigits 10 (n / 10) ≠ [] := Nat.toDigits_ne_nil
      rw [Nat.toDigits_of_base_le (by decide) hge, List.head?_append, List.head?_eq_some_head hne,
        Option.some_or, ← List.head?_eq_some_head hne]
      exact ih (n / 10) (by omega) hpos

/-- **Milliseconds are written as seconds with three places.** -/
theorem writesDecimal_seconds (n : Nat) : WritesDecimal 3 (seconds n) (n / 1000) := by
  have hdigits : ∀ c ∈ Nat.toDigits 10 (n / 1000), c.isDigit = true := fun c hc =>
    Nat.isDigit_of_mem_toDigits (by decide) (by decide) hc
  refine ⟨Nat.toDigits 10 (n / 1000), Token.places (n % 1000), ?_, Nat.toDigits_ne_nil, ?_, ?_,
    Token.length_places n, ?_⟩
  · rw [Token.seconds_eq, Nat.toString_eq_repr, Nat.toList_repr, List.append_assoc]
    rfl
  · intro hzero
    rcases Nat.eq_zero_or_pos (n / 1000) with h | h
    · rw [h]
      rfl
    · exact absurd hzero (head?_toDigits h)
  · intro c hc
    rcases List.mem_append.mp hc with hc | hc
    · exact hdigits c hc
    · exact Token.isDigit_of_mem_places hc
  · rw [Nat.ofDigitChars_append, Nat.ofDigitChars_ten_toDigits, Token.ofDigitChars_places]
    norm_num

/-! ## Lines -/

/-- The characters of a line before its end. -/
def Line.chars (line : Line) : List Char :=
  List.replicate (4 * line.depth) ' ' ++ line.content.toList

theorem toList_text (line : Line) : line.text.toList = line.chars ++ ['\n'] := by
  simp only [Line.text, Line.chars, String.toList_append, String.toList_ofList]
  rfl

theorem splitOn_lines {ls : List Line} (h : ∀ line ∈ ls, '\n' ∉ line.content.toList) :
    (String.join (ls.map Line.text)).toList.splitOn '\n' = ls.map Line.chars ++ [[]] := by
  rw [String.toList_join, List.flatMap_map]
  induction ls with
  | nil => rfl
  | cons line ls ih =>
    rw [List.forall_mem_cons] at h
    have hline : '\n' ∉ line.chars := by
      rw [Line.chars, List.mem_append, not_or]
      exact ⟨fun hmem => absurd (List.eq_of_mem_replicate hmem) (by decide), h.1⟩
    rw [List.flatMap_cons, toList_text, List.append_assoc, List.singleton_append,
      List.splitOn_append_cons_self_of_not_mem hline, List.map_cons, List.cons_append, ih h.2]

/-- The argument of a line does not depend on its indentation. -/
theorem sleepArgument?_chars (line : Line) :
    sleepArgument? line.chars = sleepArgument? line.content.toList := by
  have hspaces : ∀ c ∈ List.replicate (4 * line.depth) ' ', (c == ' ') = true := fun c hc => by
    rw [List.eq_of_mem_replicate hc]
    rfl
  rw [sleepArgument?, sleepArgument?, Line.chars, List.dropWhile_append_of_pos hspaces]

/-! ## Lines without sleeps -/

/-- A text on one line. -/
def Unbroken (s : String) : Prop := '\n' ∉ s.toList

instance (s : String) : Decidable (Unbroken s) := inferInstanceAs (Decidable ('\n' ∉ s.toList))

/-- A text on one line that begins like no call of `sleep`. -/
def Calm (s : String) : Prop :=
  Unbroken s ∧ s.toList.head?.any (fun c => c != ' ' && c != 's') = true

instance (s : String) : Decidable (Calm s) := instDecidableAnd

/-- A line that does not break and does not call `sleep`. -/
structure Silent (line : Line) : Prop where
  unbroken : Unbroken line.content
  noSleep : sleepArgument? line.content.toList = none

variable {s t : String}

theorem Unbroken.append (hs : Unbroken s) (ht : Unbroken t) : Unbroken (s ++ t) := by
  rw [Unbroken, String.toList_append, List.mem_append, not_or]
  exact ⟨hs, ht⟩

theorem Calm.append (hs : Calm s) (ht : Unbroken t) : Calm (s ++ t) := by
  refine ⟨hs.1.append ht, ?_⟩
  have hfirst := hs.2
  rw [String.toList_append, List.head?_append]
  cases h : s.toList.head? with
  | none =>
    rw [h] at hfirst
    cases hfirst
  | some c =>
    rw [h] at hfirst
    exact hfirst

theorem sleepArgument?_of_calm (h : Calm s) : sleepArgument? s.toList = none := by
  have hfirst := h.2
  rw [sleepArgument?]
  cases hs : s.toList with
  | nil =>
    rw [hs] at hfirst
    cases hfirst
  | cons c cs =>
    rw [hs, List.head?_cons, Option.any_some, Bool.and_eq_true, bne_iff_ne, bne_iff_ne] at hfirst
    have hspace : (c == ' ') = false := beq_eq_false_iff_ne.mpr hfirst.1
    have hsleep : "sleep(".toList.isPrefixOf (c :: cs) = false := by
      have hne : ('s' == c) = false := beq_eq_false_iff_ne.mpr (Ne.symm hfirst.2)
      change ('s' == c && _) = false
      rw [hne, Bool.false_and]
    simp only [List.dropWhile_cons, hspace, hsleep, Bool.false_eq_true, if_false]

theorem Calm.silent (h : Calm s) (depth : Nat) : Silent ⟨depth, s⟩ :=
  ⟨h.1, sleepArgument?_of_calm h⟩

theorem OneLine.unbroken (h : OneLine s) : Unbroken s := by
  intro hmem
  cases h '\n' hmem

/-- No line feed is read inside a literal. -/
theorem newline_notMem_of_read {mode : Literal.Mode} {cs : List Char}
    {result : Literal.Mode × List Char} (h : Literal.read mode cs = some result) :
    '\n' ∉ cs := by
  induction cs generalizing mode result with
  | nil => exact List.not_mem_nil
  | cons c cs ih =>
    rw [Literal.read, Option.bind_eq_some_iff] at h
    obtain ⟨next, hc, hcs⟩ := h
    obtain ⟨rest, hrest, -⟩ := Option.map_eq_some_iff.mp hcs
    rw [List.mem_cons, not_or]
    refine ⟨?_, ih hrest⟩
    rintro rfl
    cases mode <;> cases hc

theorem calm_literal (s : String) : Calm (Literal.text s) := by
  have hcontent : Unbroken (String.ofList (Literal.escaped s.toList)) := by
    rw [Unbroken, String.toList_ofList]
    exact newline_notMem_of_read (Literal.read_escaped s.toList)
  have hquote : Calm "\"" := by decide
  exact (hquote.append hcontent).append hquote.1

theorem unbroken_natural (n : Nat) : Unbroken (toString n) := by
  rw [Unbroken, Nat.toString_eq_repr, Nat.toList_repr]
  intro hmem
  cases Nat.isDigit_of_mem_toDigits (by decide) (by decide) hmem

/-! ## Calls -/

theorem silent_note (depth : Nat) {note : String} (h : Unbroken note) :
    Silent (noteLine depth note) := by
  have hslashes : Calm "// " := by decide
  exact (hslashes.append h).silent depth

/-- A line that ends with a literal and a comma. -/
theorem silent_value (depth : Nat) (value : String) (h : Calm s) :
    Silent ⟨depth, s ++ Literal.text value ++ ","⟩ := by
  have hcomma : Unbroken "," := by decide
  exact ((h.append (calm_literal value).1).append hcomma).silent depth

theorem silent_property (depth : Nat) (name value : String) :
    Silent (propertyLine depth name value) := by
  have hcolon : Unbroken ": " := by decide
  exact silent_value depth value ((calm_literal name).append hcolon)

theorem silent_object (depth : Nat) {name : String} (fields : List (String × String))
    (hname : Calm name) : ∀ line ∈ objectLines depth name fields, Silent line := by
  have hopen : Unbroken ": \x7b" := by decide
  have hclose : Calm "\x7d," := by decide
  intro line h
  rw [objectLines, List.mem_append, List.mem_append, List.mem_singleton, List.mem_singleton] at h
  rcases h with (rfl | h) | rfl
  · exact (hname.append hopen).silent depth
  · obtain ⟨field, -, rfl⟩ := List.mem_map.mp h
    exact silent_property (depth + 1) field.1 field.2
  · exact hclose.silent depth

theorem silent_named (depth : Nat) {name : String} (values : List NamedValue)
    (hname : Calm name) : ∀ line ∈ namedLines depth name values, Silent line := by
  rw [namedLines]
  split_ifs
  · exact fun _ h => absurd h List.not_mem_nil
  · exact silent_object depth _ hname

theorem silent_payload {payload : Payload} (h : payload.NoteOneLine) :
    ∀ line ∈ payloadLines payload, Silent line := by
  cases payload with
  | absent => exact fun _ h => absurd h List.not_mem_nil
  | text content =>
    have hbody : Calm "body: " := by decide
    exact List.forall_mem_singleton.mpr (silent_value 3 content hbody)
  | form fields => exact silent_object 3 fields (by decide)
  | note content =>
    have homitted : Unbroken "body omitted: " := by decide
    exact List.forall_mem_singleton.mpr (silent_note 3 (homitted.append (h content rfl).unbroken))

theorem silent_params (call : Call) : ∀ line ∈ paramLines call, Silent line := by
  have hopen : Calm "params: \x7b" := by decide
  have hclose : Calm "\x7d," := by decide
  rw [paramLines]
  split_ifs
  · exact fun _ h => absurd h List.not_mem_nil
  · intro line h
    simp only [List.mem_append, List.mem_singleton] at h
    rcases h with ((rfl | h) | h) | rfl
    · exact hopen.silent 3
    · exact silent_named 4 call.cookies (by decide) line h
    · exact silent_named 4 call.headers (by decide) line h
    · exact hclose.silent 3

theorem silent_call {call : Call} (h : call.payload.NoteOneLine) :
    ∀ line ∈ callLines call, Silent line := by
  have hopen : Calm "\x7b" := by decide
  have hmethod : Calm "method: " := by decide
  have hurl : Calm "url: " := by decide
  have hclose : Calm "\x7d," := by decide
  intro line hline
  simp only [callLines, List.mem_append, List.mem_cons, List.not_mem_nil, or_false] at hline
  rcases hline with (((rfl | rfl | rfl) | hline) | hline) | rfl
  · exact hopen.silent 2
  · exact silent_value 3 call.method hmethod
  · exact silent_value 3 call.url hurl
  · exact silent_payload h line hline
  · exact silent_params call line hline
  · exact hclose.silent 2

/-! ## Steps -/

theorem calm_check (check : Check) : Calm (checkText check) := by
  have hopen : Calm "check(res[" := by decide
  have hplace : Unbroken "], \x7b " := by decide
  have hstatus : Unbroken ": (r) => r.status === " := by decide
  have hclose : Unbroken " \x7d)" := by decide
  exact (((((hopen.append (unbroken_natural _)).append hplace).append (calm_literal _).1).append
    hstatus).append (unbroken_natural _)).append hclose

theorem silent_check (stops : Bool) (check : Check) : Silent (checkLine stops check) := by
  rw [checkLine]
  split_ifs
  · have hif : Calm "if (!" := by decide
    have hreturn : Unbroken ") \x7b return; \x7d" := by decide
    exact ((hif.append (calm_check check).1).append hreturn).silent 1
  · have hend : Unbroken ";" := by decide
    exact ((calm_check check).append hend).silent 1

theorem silent_batch {step : Step} (stops : Bool)
    (h : ∀ call ∈ step.calls, call.payload.NoteOneLine) :
    ∀ line ∈ [⟨1, "req = ["⟩] ++ step.calls.flatMap callLines ++
      [⟨1, "];"⟩, ⟨1, "res = http.batch(req);"⟩] ++ step.checks.map (checkLine stops),
      Silent line := by
  have hopen : Calm "req = [" := by decide
  have hclose : Calm "];" := by decide
  have hbatch : Calm "res = http.batch(req);" := by decide
  intro line hline
  simp only [List.mem_append, List.mem_cons, List.not_mem_nil, or_false, List.mem_flatMap,
    List.mem_map] at hline
  rcases hline with ((rfl | ⟨call, hcall, hline⟩) | rfl | rfl) | ⟨check, -, rfl⟩
  · exact hopen.silent 1
  · exact silent_call (h call hcall) line hline
  · exact hclose.silent 1
  · exact hbatch.silent 1
  · exact silent_check stops check

/-- The arguments of the sleeps in lines. -/
def sleepsOf (ls : List Line) : List String :=
  ls.filterMap fun line => sleepArgument? line.content.toList

theorem sleepsOf_append (ls ms : List Line) : sleepsOf (ls ++ ms) = sleepsOf ls ++ sleepsOf ms :=
  List.filterMap_append

theorem sleepsOf_of_silent {ls : List Line} (h : ∀ line ∈ ls, Silent line) : sleepsOf ls = [] :=
  List.filterMap_eq_nil_iff.mpr fun line hline => (h line hline).noSleep

theorem isDigit_or_point_of_mem_seconds {n : Nat} {c : Char} (h : c ∈ (seconds n).toList) :
    c.isDigit = true ∨ c = '.' := by
  rw [Token.seconds_eq, Nat.toString_eq_repr, Nat.toList_repr, List.mem_append, List.mem_append,
    List.mem_singleton] at h
  rcases h with (h | h) | h
  · exact Or.inl (Nat.isDigit_of_mem_toDigits (by decide) (by decide) h)
  · exact Or.inr h
  · exact Or.inl (Token.isDigit_of_mem_places h)

/-- What stands between the parentheses of a sleep is the pause in seconds. -/
theorem sleepArgument?_pause (pause : Nat) :
    sleepArgument? ("sleep(" ++ seconds pause ++ ");").toList = some (seconds pause) := by
  have hinside : ∀ c ∈ (seconds pause).toList, (c != ')') = true := by
    intro c hc
    rw [bne_iff_ne]
    rintro rfl
    rcases isDigit_or_point_of_mem_seconds hc with h | h <;> cases h
  have harguments : ((seconds pause).toList ++ ");".toList).takeWhile (· != ')') =
      (seconds pause).toList := by
    rw [List.takeWhile_append_of_pos hinside]
    exact List.append_nil _
  rw [String.toList_append, String.toList_append, List.append_assoc]
  change some (String.ofList
    (((seconds pause).toList ++ ");".toList).takeWhile (· != ')'))) = _
  rw [harguments, String.ofList_toList]

theorem sleepsOf_step {step : Step} (stops : Bool)
    (h : ∀ call ∈ step.calls, call.payload.NoteOneLine) :
    sleepsOf (stepLines stops step) = (step.pause.map seconds).toList := by
  have hbatch := sleepsOf_of_silent (silent_batch stops h)
  simp only [List.append_assoc] at hbatch
  rw [stepLines]
  simp only [List.append_assoc]
  rw [sleepsOf_append, hbatch, List.append_nil]
  cases step.pause with
  | none => rfl
  | some pause =>
    rw [Option.map_some, Option.toList_some, sleepsOf, List.filterMap_cons, sleepArgument?_pause]
    rfl

theorem unbroken_step {step : Step} (stops : Bool)
    (h : ∀ call ∈ step.calls, call.payload.NoteOneLine) :
    ∀ line ∈ stepLines stops step, Unbroken line.content := by
  have hopen : Unbroken "sleep(" := by decide
  have hclose : Unbroken ");" := by decide
  have hseconds (pause : Nat) : Unbroken (seconds pause) := by
    intro hmem
    rcases isDigit_or_point_of_mem_seconds hmem with h | h <;> cases h
  intro line hline
  rw [stepLines, List.append_assoc, List.append_assoc, List.append_assoc, List.mem_append] at hline
  rcases hline with hline | hline
  · rw [Option.mem_toList, Option.map_eq_some_iff] at hline
    obtain ⟨pause, -, rfl⟩ := hline
    exact (hopen.append (hseconds pause)).append hclose
  · simp only [← List.append_assoc] at hline
    exact (silent_batch stops h line hline).unbroken

/-! ## Whole scripts -/

theorem silent_blank : Silent Line.blank := ⟨by decide, rfl⟩

theorem silent_imports (checked : Bool) : ∀ line ∈ importLines checked, Silent line := by
  have hchecked : Calm "import \x7b check, sleep \x7d from \"k6\";" := by decide
  have hunchecked : Calm "import \x7b sleep \x7d from \"k6\";" := by decide
  have hhttp : Calm "import http from \"k6/http\";" := by decide
  intro line h
  simp only [importLines, List.mem_cons, List.not_mem_nil, or_false] at h
  rcases h with rfl | rfl | rfl
  · cases checked with
    | false => exact hunchecked.silent 0
    | true => exact hchecked.silent 0
  · exact hhttp.silent 0
  · exact silent_blank

theorem silent_notes {notes : List String} (h : ∀ note ∈ notes, OneLine note) :
    ∀ line ∈ noteLines notes, Silent line := by
  rw [noteLines]
  split_ifs
  · exact fun _ h => absurd h List.not_mem_nil
  · intro line hline
    rw [List.mem_append, List.mem_map, List.mem_singleton] at hline
    rcases hline with ⟨note, hnote, rfl⟩ | rfl
    · exact silent_note 0 (h note hnote).unbroken
    · exact silent_blank

theorem silent_options : ∀ line ∈ optionLines, Silent line := by
  have hopen : Calm "export let options = \x7b" := by decide
  have hredirects : Calm "maxRedirects: 0," := by decide
  have hclose : Calm "\x7d;" := by decide
  intro line h
  simp only [optionLines, List.mem_cons, List.not_mem_nil, or_false] at h
  rcases h with rfl | rfl | rfl | rfl
  · exact hopen.silent 0
  · exact hredirects.silent 1
  · exact hclose.silent 0
  · exact silent_blank

/-- The lines before the first step. -/
theorem silent_head {script : Script} (h : ∀ note ∈ script.notes, OneLine note) :
    ∀ line ∈ importLines script.checked ++ noteLines script.notes ++ optionLines ++
      ([⟨0, "export default function() \x7b"⟩] ++
        (if script.steps.isEmpty then [] else [(⟨1, "let req, res;"⟩ : Line)])), Silent line := by
  have hrun : Calm "export default function() \x7b" := by decide
  have hlet : Calm "let req, res;" := by decide
  intro line hline
  simp only [List.mem_append, List.mem_singleton] at hline
  rcases hline with ((hline | hline) | hline) | rfl | hline
  · exact silent_imports script.checked line hline
  · exact silent_notes h line hline
  · exact silent_options line hline
  · exact hrun.silent 0
  · split_ifs at hline
    · cases hline
    · rw [List.mem_singleton.mp hline]
      exact hlet.silent 1

theorem sleepArguments_join {ls : List Line} (h : ∀ line ∈ ls, Unbroken line.content) :
    sleepArguments (String.join (ls.map Line.text)) = sleepsOf ls := by
  have hempty : sleepArgument? [] = none := rfl
  rw [sleepArguments, splitOn_lines h, List.filterMap_append, List.filterMap_map,
    List.filterMap_cons, hempty, List.filterMap_nil, List.append_nil]
  exact List.filterMap_congr fun line _ => sleepArgument?_chars line

/-- **The sleeps in the text of a script are the pauses of its steps.** -/
theorem sleepArguments_text {script : Script} (h : script.NotesOneLine) :
    sleepArguments script.text = script.steps.filterMap fun step => step.pause.map seconds := by
  have hhead := silent_head h.notes
  have hclose : Silent ⟨0, "\x7d"⟩ := Calm.silent (by decide) 0
  have hlines : script.lines = importLines script.checked ++ noteLines script.notes ++
      optionLines ++ ([⟨0, "export default function() \x7b"⟩] ++
        (if script.steps.isEmpty then [] else [(⟨1, "let req, res;"⟩ : Line)])) ++
      script.steps.flatMap (stepLines script.stops) ++ [⟨0, "\x7d"⟩] := by
    simp only [lines, runLines, List.append_assoc]
  have hunbroken : ∀ line ∈ script.lines, Unbroken line.content := by
    intro line hline
    rw [hlines, List.mem_append, List.mem_append, List.mem_flatMap, List.mem_singleton] at hline
    rcases hline with (hline | ⟨step, hstep, hline⟩) | rfl
    · exact (hhead line hline).unbroken
    · exact unbroken_step script.stops (h.payloads step hstep) line hline
    · exact hclose.unbroken
  have hsteps : ∀ step ∈ script.steps, sleepsOf (stepLines script.stops step) =
      (step.pause.map seconds).toList :=
    fun step hstep => sleepsOf_step script.stops (h.payloads step hstep)
  rw [text, sleepArguments_join hunbroken, hlines, sleepsOf_append, sleepsOf_append,
    sleepsOf_of_silent hhead, sleepsOf_of_silent (List.forall_mem_singleton.mpr hclose),
    List.nil_append, List.append_nil, List.filterMap_eq_flatMap_toList, sleepsOf,
    List.filterMap_flatMap]
  exact List.flatMap_congr hsteps

end SessionReplay.Script
