import Mathlib.Tactic.IntervalCases
import SessionReplay.Proofs.Script.Literal
import SessionReplay.Script.Render

/-!
# Tokens of scripts

The characters of a script are grouped into tokens by a machine that reads one character at a time.
A word goes on as long as it can; a line comment ends at a line feed, a carriage return or a line or
paragraph separator; a literal ends at a quote that is not escaped. Words with letters other than
the twenty-six basic ones, numbers with exponents and signs that no script uses are refused.

* `Token` — words and signs, numbers, literals and comments;
* `Token.Mode`, `Token.step`, `Token.run` — the machine;
* `Token.ofText?` — the tokens of a text;
* `Token.Reads`, `Reads.append`: characters that are read one after the other;
* `reads_literal`, `reads_natural`, `reads_seconds`, `reads_note`: the tokens of what is written.
-/

namespace SessionReplay.Script

/-- A token. A number has digits, of which the last ones are places after the point. -/
inductive Token where
  | symbol (text : String)
  | number (digits places : Nat)
  | literal (content : String)
  | note (content : String)
  deriving DecidableEq, Repr

namespace Token

/-! ## The machine -/

/-- Where the machine stands: between tokens, or inside one of which it has read something. -/
inductive Mode where
  | between
  | word (read : List Char)
  | whole (value : Nat)
  | fraction (digits places : Nat)
  | equals (count : Nat)
  | slash
  | note (read : List Char)
  | literal (mode : Literal.Mode) (read : List Char)
  | failed
  deriving DecidableEq, Repr

/-- A character that begins a word. -/
def isWordStart (c : Char) : Bool :=
  c.isAlpha || c == '_' || c == '$'

/-- A character that is a sign of its own. -/
def isSign (c : Char) : Bool :=
  ['\x7b', '\x7d', '(', ')', '[', ']', ';', ',', ':', '.', '!'].contains c

/-- The value of a digit. -/
def digit? (c : Char) : Option Nat :=
  Text.decimalValue? c.toNat

/-- A character between tokens. -/
def begin (c : Char) : List Token × Mode :=
  if c = ' ' ∨ c = '\t' ∨ Literal.isLineEnd c then ([], .between)
  else if isWordStart c then ([], .word [c])
  else if c = '"' then ([], .literal .plain [])
  else if c = '/' then ([], .slash)
  else if c = '=' then ([], .equals 1)
  else if isSign c then ([.symbol (String.ofList [c])], .between)
  else match digit? c with
    | some digit => ([], .whole digit)
    | none => ([], .failed)

/-- A character that is no part of the token before it. -/
def finish (token : Token) (c : Char) : List Token × Mode :=
  (token :: (begin c).1, (begin c).2)

/-- A character after the digits of a number, which no word may follow at once. -/
def endNumber (token : Token) (c : Char) : List Token × Mode :=
  if isWordStart c then ([], .failed) else finish token c

/-- **One character**: the tokens that it ends, and where the machine stands after it. -/
def step : Mode → Char → List Token × Mode
  | .between, c => begin c
  | .word read, c =>
    if isWordStart c ∨ c.isDigit then ([], .word (read ++ [c]))
    else finish (.symbol (String.ofList read)) c
  | .whole value, c =>
    match digit? c with
    -- a number of several digits does not begin with a zero
    | some digit => if value = 0 then ([], .failed) else ([], .whole (10 * value + digit))
    | none => if c = '.' then ([], .fraction value 0) else endNumber (.number value 0) c
  | .fraction digits places, c =>
    match digit? c with
    | some digit => ([], .fraction (10 * digits + digit) (places + 1))
    | none => endNumber (.number digits places) c
  | .equals count, c =>
    if c = '=' ∧ count < 3 then ([], .equals (count + 1))
    else if c = '>' ∧ count = 1 then ([.symbol "=>"], .between)
    else finish (.symbol (String.ofList (List.replicate count '='))) c
  | .slash, c => if c = '/' then ([], .note []) else ([], .failed)
  | .note read, c =>
    if Literal.isLineEnd c then ([.note (String.ofList read)], .between)
    else ([], .note (read ++ [c]))
  | .literal mode read, c =>
    if mode = .plain ∧ c = '"' then ([.literal (String.ofList read)], .between)
    else match Literal.readChar mode c with
      | some (next, added) => ([], .literal next (read ++ added))
      | none => ([], .failed)
  | .failed, _ => ([], .failed)

/-- The tokens that characters end, and where the machine stands after them. -/
def run : Mode → List Char → List Token × Mode
  | mode, [] => ([], mode)
  | mode, c :: cs =>
    ((step mode c).1 ++ (run (step mode c).2 cs).1, (run (step mode c).2 cs).2)

/-- **The tokens of a text**, if it has any; the end of the text ends a line. -/
def ofText? (text : String) : Option (List Token) :=
  let result := run .between (text.toList ++ ['\n'])
  if result.2 = .between then some result.1 else none

/-- Words and signs. -/
def symbols (texts : List String) : List Token := texts.map .symbol

/-! ## Runs -/

/-- The machine reads characters as tokens on its way from one mode to another. -/
def Reads (mode : Mode) (cs : List Char) (tokens : List Token) (next : Mode) : Prop :=
  run mode cs = (tokens, next)

variable {mode next last : Mode} {cs ds : List Char} {tokens more : List Token}

/-- **Characters are read one after the other.** -/
theorem Reads.append (hcs : Reads mode cs tokens next) (hds : Reads next ds more last) :
    Reads mode (cs ++ ds) (tokens ++ more) last := by
  induction cs generalizing mode tokens with
  | nil =>
    cases hcs
    exact hds
  | cons c cs ih =>
    obtain ⟨rfl, hlast⟩ := Prod.mk.inj hcs
    have hrest : Reads (step mode c).2 cs (run (step mode c).2 cs).1 next := Prod.ext rfl hlast
    have h := ih hrest
    rw [Reads] at h
    rw [Reads, List.cons_append, run, h, List.append_assoc]

theorem ofText?_eq_some {text : String} (h : Reads .between text.toList tokens .between) :
    ofText? text = some tokens := by
  have hend : Reads .between ['\n'] [] .between := rfl
  have hall := h.append hend
  rw [Reads, List.append_nil] at hall
  rw [ofText?, hall]
  rfl

theorem reads_flatMap {α : Type} {text : α → List Char} {spell : α → List Token} {xs : List α}
    (h : ∀ x ∈ xs, Reads .between (text x) (spell x) .between) :
    Reads .between (xs.flatMap text) (xs.flatMap spell) .between := by
  induction xs with
  | nil => rfl
  | cons x xs ih =>
    rw [List.forall_mem_cons] at h
    rw [List.flatMap_cons, List.flatMap_cons]
    exact h.1.append (ih h.2)

theorem reads_spaces (n : Nat) : Reads .between (List.replicate n ' ') [] .between := by
  induction n with
  | zero => rfl
  | succ n ih =>
    have hspace : Reads .between [' '] [] .between := rfl
    exact hspace.append ih

/-! ## Literals and comments -/

theorem reads_content {start finish : Literal.Mode} {content : List Char} (seen : List Char)
    (h : Literal.read start cs = some (finish, content)) :
    Reads (.literal start seen) cs [] (.literal finish (seen ++ content)) := by
  induction cs generalizing start content seen with
  | nil =>
    cases h
    rw [List.append_nil]
    rfl
  | cons c cs ih =>
    rw [Literal.read, Option.bind_eq_some_iff] at h
    obtain ⟨⟨second, added⟩, hc, hcs⟩ := h
    obtain ⟨⟨third, rest⟩, hrest, heq⟩ := Option.map_eq_some_iff.mp hcs
    cases heq
    -- a quote that ends the literal is refused as a part of it
    have hquote : ¬(start = .plain ∧ c = '"') := by
      rintro ⟨rfl, rfl⟩
      cases hc
    have hstep : Reads (.literal start seen) [c] [] (.literal second (seen ++ added)) := by
      rw [Reads, run, step, if_neg hquote, hc]
      rfl
    have hall := hstep.append (ih (seen ++ added) hrest)
    rwa [List.append_assoc] at hall

/-- **A literal is read as the text that it stands for.** -/
theorem reads_literal (s : String) :
    Reads .between (Literal.text s).toList [.literal s] .between := by
  have hopen : Reads .between ['"'] [] (.literal .plain []) := rfl
  have hcontent := reads_content [] (Literal.read_escaped s.toList)
  have hclose : Reads (.literal .plain s.toList) ['"'] [.literal (String.ofList s.toList)]
      .between := rfl
  have hall := (hopen.append hcontent).append hclose
  rw [String.ofList_toList] at hall
  simp only [Literal.text, String.toList_append, String.toList_ofList]
  exact hall

theorem reads_comment (seen : List Char) (h : ∀ c ∈ cs, Literal.isLineEnd c = false) :
    Reads (.note seen) cs [] (.note (seen ++ cs)) := by
  induction cs generalizing seen with
  | nil =>
    rw [List.append_nil]
    rfl
  | cons c cs ih =>
    rw [List.forall_mem_cons] at h
    have hstep : Reads (.note seen) [c] [] (.note (seen ++ [c])) := by
      rw [Reads, run, step, h.1]
      rfl
    have hall := hstep.append (ih (seen ++ [c]) h.2)
    rwa [List.append_assoc] at hall

/-- **A comment without line ends is read up to the end of its line.** -/
theorem reads_note {s : String} (h : ∀ c ∈ s.toList, Literal.isLineEnd c = false) :
    Reads .between ("//" ++ s ++ "\n").toList [.note s] .between := by
  have hopen : Reads .between "//".toList [] (.note []) := rfl
  have hclose : Reads (.note s.toList) "\n".toList [.note (String.ofList s.toList)]
      .between := rfl
  have hall := (hopen.append (reads_comment [] h)).append hclose
  rw [String.ofList_toList] at hall
  rw [String.toList_append, String.toList_append]
  exact hall

/-! ## Numbers -/

theorem digit?_digitChar {d : Nat} (h : d < 10) : digit? (Nat.digitChar d) = some d := by
  interval_cases d <;> rfl

theorem reads_wholeDigit {value d : Nat} (hvalue : value ≠ 0) (hd : d < 10) :
    Reads (.whole value) [Nat.digitChar d] [] (.whole (10 * value + d)) := by
  simp only [Reads, run, step, digit?_digitChar hd, if_neg hvalue]
  rfl

/-- A natural number is read digit by digit. -/
theorem reads_natural (n : Nat) : Reads .between (toString n).toList [] (.whole n) := by
  rw [Nat.toString_eq_repr, Nat.toList_repr]
  induction n using Nat.strong_induction_on with
  | h n ih =>
    rcases Nat.lt_or_ge n 10 with hn | hn
    · rw [Nat.toDigits_of_lt_base hn]
      interval_cases n <;> rfl
    · have hpos : n / 10 ≠ 0 := by omega
      have hlast := reads_wholeDigit hpos (Nat.mod_lt n (by decide : 10 > 0))
      rw [Nat.div_add_mod] at hlast
      rw [Nat.toDigits_of_base_le (by decide) hn]
      exact (ih (n / 10) (by omega)).append hlast

theorem digit?_of_isDigit {c : Char} (h : c.isDigit = true) :
    digit? c = some (c.toNat - '0'.toNat) := by
  have hcode : 0x30 ≤ c.toNat ∧ c.toNat ≤ 0x39 := by
    rw [Char.isDigit, Bool.and_eq_true, decide_eq_true_eq, decide_eq_true_eq] at h
    exact h
  rw [digit?, Text.decimalValue?, if_pos hcode]
  rfl

/-- The digits after a point are read as places. -/
theorem reads_places (digits places : Nat) (h : ∀ c ∈ cs, c.isDigit = true) :
    Reads (.fraction digits places) cs []
      (.fraction (Nat.ofDigitChars 10 cs digits) (places + cs.length)) := by
  induction cs generalizing digits places with
  | nil => exact Prod.ext rfl (by rw [Nat.ofDigitChars_nil]; rfl)
  | cons c cs ih =>
    rw [List.forall_mem_cons] at h
    have hstep : Reads (.fraction digits places) [c] []
        (.fraction (10 * digits + (c.toNat - '0'.toNat)) (places + 1)) := by
      rw [Reads, run, step, digit?_of_isDigit h.1]
      rfl
    have hall := hstep.append (ih _ (places + 1) h.2)
    rw [Nat.ofDigitChars_cons, List.length_cons, Nat.add_comm cs.length, ← Nat.add_assoc]
    exact hall

/-- The places of a number of milliseconds below one second. -/
def places (fraction : Nat) : List Char :=
  List.replicate (3 - (Nat.toDigits 10 fraction).length) '0' ++ Nat.toDigits 10 fraction

theorem seconds_eq (n : Nat) :
    (seconds n).toList = (toString (n / 1000)).toList ++ ['.'] ++ places (n % 1000) := by
  simp only [seconds, places, String.toList_append, String.toList_ofList, Nat.toString_eq_repr,
    Nat.toList_repr, ← String.length_toList, List.append_assoc]
  rfl

theorem length_toDigits_thousandth (n : Nat) : (Nat.toDigits 10 (n % 1000)).length ≤ 3 :=
  (Nat.length_toDigits_le_iff (by decide) (by decide)).mpr (Nat.mod_lt n (by decide))

theorem length_places (n : Nat) : (places (n % 1000)).length = 3 := by
  rw [places, List.length_append, List.length_replicate]
  exact Nat.sub_add_cancel (length_toDigits_thousandth n)

theorem ofDigitChars_places (n : Nat) :
    Nat.ofDigitChars 10 (places (n % 1000)) (n / 1000) = n := by
  have hlength := length_toDigits_thousandth n
  rw [places, Nat.ofDigitChars_append, Nat.ofDigitChars_replicate_zero,
    Nat.ofDigitChars_eq_ofDigitChars_zero, Nat.ofDigitChars_ten_toDigits, ← Nat.mul_assoc,
    ← Nat.pow_add, Nat.add_sub_cancel' hlength]
  exact Nat.div_add_mod n 1000

theorem isDigit_of_mem_places {fraction : Nat} {c : Char} (h : c ∈ places fraction) :
    c.isDigit = true := by
  rw [places, List.mem_append] at h
  rcases h with h | h
  · rw [List.eq_of_mem_replicate h]
    decide
  · exact Nat.isDigit_of_mem_toDigits (by decide) (by decide) h

/-- **Milliseconds are read as a number with three places.** -/
theorem reads_seconds (n : Nat) : Reads .between (seconds n).toList [] (.fraction n 3) := by
  have hpoint : Reads (.whole (n / 1000)) ['.'] [] (.fraction (n / 1000) 0) := rfl
  have hplaces : Reads (.fraction (n / 1000) 0) (places (n % 1000)) [] _ :=
    reads_places _ _ fun c h => isDigit_of_mem_places h
  rw [ofDigitChars_places, length_places] at hplaces
  rw [seconds_eq]
  exact ((reads_natural _).append hpoint).append hplaces

end Token

end SessionReplay.Script
