import Mathlib.Data.List.Chain
import Mathlib.Logic.Relation
import SessionReplay.Proofs.CommandLine.Line
import SessionReplay.Proofs.CommandLine.Values

/-!
# Choices one after the other

* `texts`, `turns` — the choices of one option, and those of one pair of switches;
* `Allowed`, `chosen` — choices that can be made, and what they amount to;
* `choose_eq_ok_iff`: what one choice needs and does;
* **`foldlM_choose_eq_ok_iff`**: and what choices one after the other do;
* `Alternates`, `alternates_iff`: no switch is given twice without the other one of its pair in
  between, if the turns of the pair alternate;
* `Reordered` — choices in another order, in which those of one kind stand as before;
* **`Reordered.chosen_eq`, `Reordered.allowed_iff`**: such an order makes no difference.
-/

namespace SessionReplay.CommandLine

/-! ## Choices of one kind -/

/-- The value of a choice, if it is one of an option. -/
def Choice.text? (option : ValueOption) : Choice → Option String
  | .value other text => if other = option then some text else none
  | .switch _ => none

/-- The side of a pair of switches that a choice turns to, if it is one of them. -/
def Choice.turn? (pair : Bool → Switch) (choice : Choice) : Option Bool :=
  if choice = .switch (pair true) then some true
  else if choice = .switch (pair false) then some false
  else none

/-- The values of an option. -/
def texts (option : ValueOption) (choices : List Choice) : List String :=
  choices.filterMap (Choice.text? option)

/-- The turns of a pair of switches. -/
def turns (pair : Bool → Switch) (choices : List Choice) : List Bool :=
  choices.filterMap (Choice.turn? pair)

variable {choices choices' before after : List Choice} {choice : Choice}
  {option other : ValueOption} {switch : Switch} {pair : Bool → Switch} {on : Bool}
  {o : Overrides} {text : String}

@[simp]
theorem texts_append : texts option (before ++ after) = texts option before ++ texts option after :=
  List.filterMap_append

@[simp]
theorem turns_append : turns pair (before ++ after) = turns pair before ++ turns pair after :=
  List.filterMap_append

@[simp]
theorem texts_value : texts option [.value other text] = if other = option then [text] else [] := by
  rw [texts, List.filterMap_cons, Choice.text?]
  split_ifs <;> rfl

@[simp]
theorem texts_switch : texts option [.switch switch] = [] := rfl

@[simp]
theorem turns_value : turns pair [.value option text] = [] := rfl

@[simp]
theorem turns_checks : turns .checks [.switch (.checks on)] = [on] := by
  cases on <;> rfl

@[simp]
theorem turns_checks_stopOnFailure : turns .checks [.switch (.stopOnFailure on)] = [] := by
  cases on <;> rfl

@[simp]
theorem turns_stopOnFailure : turns .stopOnFailure [.switch (.stopOnFailure on)] = [on] := by
  cases on <;> rfl

@[simp]
theorem turns_stopOnFailure_checks : turns .stopOnFailure [.switch (.checks on)] = [] := by
  cases on <;> rfl

/-! ## What choices amount to -/

/-- What choices amount to. -/
def chosen (choices : List Choice) : Overrides where
  output := (texts .output choices).getLast?
  only := (texts .only choices).flatMap commaParts
  skip := (texts .skip choices).flatMap commaParts
  threshold := (texts .threshold choices).getLast?.bind number?
  checks := (turns .checks choices).getLast?
  stopOnFailure := (turns .stopOnFailure choices).getLast?

/-- There is at most one text, and it has a property. -/
structure AtMostOne (P : String → Prop) (l : List String) : Prop where
  length : l.length ≤ 1
  forall_mem : ∀ text ∈ l, P text

namespace AtMostOne

variable {P : String → Prop} {l l' : List String}

theorem nil : AtMostOne P [] := ⟨Nat.zero_le 1, nofun⟩

theorem concat_iff : AtMostOne P (l ++ [text]) ↔ l = [] ∧ P text := by
  constructor
  · rintro ⟨hlength, hall⟩
    rw [List.length_append, List.length_singleton] at hlength
    exact ⟨List.length_eq_zero_iff.mp (by omega), hall text List.mem_concat_self⟩
  · rintro ⟨rfl, htext⟩
    exact ⟨Nat.le_refl 1, fun _ hmem => List.mem_singleton.mp hmem ▸ htext⟩

theorem of_append (h : AtMostOne P (l ++ l')) : AtMostOne P l := by
  refine ⟨Nat.le_trans ?_ h.length, fun text htext => h.forall_mem text ?_⟩
  · rw [List.length_append]
    exact Nat.le_add_right _ _
  · exact List.mem_append_left _ htext

theorem eq_nil_or (h : AtMostOne P l) : l = [] ∨ ∃ text, l = [text] ∧ P text := by
  obtain ⟨hlength, hall⟩ := h
  match l, hlength with
  | [], _ => exact .inl rfl
  | [text], _ => exact .inr ⟨text, rfl, hall text List.mem_cons_self⟩

end AtMostOne

/-- Choices that can be made: an output that says something and a threshold that is a number, each
at most once, and of a pair of switches never the same one twice in a row. -/
structure Allowed (choices : List Choice) : Prop where
  output : AtMostOne (· ≠ "") (texts .output choices)
  threshold : AtMostOne (fun text => (number? text).isSome) (texts .threshold choices)
  checks : (turns .checks choices).IsChain (· ≠ ·)
  stopOnFailure : (turns .stopOnFailure choices).IsChain (· ≠ ·)

theorem allowed_iff : Allowed choices ↔ AtMostOne (· ≠ "") (texts .output choices) ∧
    AtMostOne (fun text => (number? text).isSome) (texts .threshold choices) ∧
    (turns .checks choices).IsChain (· ≠ ·) ∧ (turns .stopOnFailure choices).IsChain (· ≠ ·) :=
  ⟨fun h => ⟨h.output, h.threshold, h.checks, h.stopOnFailure⟩,
    fun ⟨houtput, hthreshold, hchecks, hstop⟩ => ⟨houtput, hthreshold, hchecks, hstop⟩⟩

theorem Allowed.of_append (h : Allowed (before ++ after)) : Allowed before := by
  simp only [allowed_iff, texts_append, turns_append] at h ⊢
  obtain ⟨houtput, hthreshold, hchecks, hstop⟩ := h
  exact ⟨houtput.of_append, hthreshold.of_append, hchecks.left_of_append, hstop.left_of_append⟩

theorem threshold_chosen_eq_none_iff (h : Allowed choices) :
    (chosen choices).threshold = none ↔ texts .threshold choices = [] := by
  rcases h.threshold.eq_nil_or with hnil | ⟨text, htext, hnumber⟩
  · simp [chosen, hnil]
  · simpa [chosen, htext] using Option.isSome_iff_ne_none.mp hnumber

/-! ## One choice after the other -/

/-- **What one choice needs and does.** -/
theorem choose_eq_ok_iff {o' : Overrides} : choose o choice = .ok o' ↔
    match choice with
    | .value .output text => o.output = none ∧ text ≠ "" ∧ o' = { o with output := some text }
    | .value .only text => o' = { o with only := o.only ++ commaParts text }
    | .value .skip text => o' = { o with skip := o.skip ++ commaParts text }
    | .value .threshold text => o.threshold = none ∧ (number? text).isSome ∧
      o' = { o with threshold := number? text }
    | .switch (.checks on) => o.checks ≠ some on ∧ o' = { o with checks := some on }
    | .switch (.stopOnFailure on) =>
      o.stopOnFailure ≠ some on ∧ o' = { o with stopOnFailure := some on } := by
  cases choice with
  | value option text =>
    cases option with
    | output =>
      rw [choose, setValue, ite_error_eq_ok_iff, ite_error_eq_ok_iff, Option.not_isSome_iff_eq_none,
        String.isEmpty_iff, Except.ok.injEq, eq_comm (b := o')]
    | only | skip => rw [choose, setValue, Except.ok.injEq, eq_comm]
    | threshold =>
      rw [choose, setValue, ite_error_eq_ok_iff, Option.not_isSome_iff_eq_none]
      cases hnumber : number? text with
      | none => simp [hnumber]
      | some n => simp [hnumber, eq_comm (b := o')]
  | switch switch =>
    cases switch <;> rw [choose, setSwitch, ite_error_eq_ok_iff, Except.ok.injEq, eq_comm (b := o')]

theorem isChain_ne_concat {turned : List Bool} : (turned ++ [on]).IsChain (· ≠ ·) ↔
    turned.IsChain (· ≠ ·) ∧ turned.getLast? ≠ some on := by
  rw [List.isChain_append]
  cases turned.getLast? <;> simp

/-- One more choice can be made if it is allowed behind the others. -/
theorem choose_chosen (h : Allowed choices) : choose (chosen choices) choice = .ok o ↔
    Allowed (choices ++ [choice]) ∧ o = chosen (choices ++ [choice]) := by
  have hthreshold := threshold_chosen_eq_none_iff h
  rw [allowed_iff] at h
  rw [choose_eq_ok_iff, allowed_iff]
  cases choice with
  | value option text =>
    cases option with
    | output => simp [chosen, AtMostOne.concat_iff, and_assoc, h]
    | only | skip => simp [chosen, h]
    | threshold =>
      simp only [hthreshold]
      simp [chosen, AtMostOne.concat_iff, and_assoc, h]
  | switch switch => cases switch <;> simp [chosen, isChain_ne_concat, h]

/-- **Which choices can be made one after the other**, and what they amount to. -/
theorem foldlM_choose_eq_ok_iff :
    choices.foldlM choose {} = .ok o ↔ Allowed choices ∧ o = chosen choices := by
  induction choices using List.reverseRecOn generalizing o with
  | nil =>
    have hallowed : Allowed [] := ⟨.nil, .nil, .nil, .nil⟩
    exact ⟨fun h => ⟨hallowed, (Except.ok.inj h).symm⟩, fun h => congrArg _ h.2.symm⟩
  | append_singleton choices choice ih =>
    rw [List.foldlM_append, bind_eq_ok_iff]
    simp only [ih, List.foldlM_cons, List.foldlM_nil, bind_pure]
    constructor
    · rintro ⟨_, ⟨hallowed, rfl⟩, hchoice⟩
      exact (choose_chosen hallowed).mp hchoice
    · intro hboth
      have hallowed := hboth.1.of_append
      exact ⟨_, ⟨hallowed, rfl⟩, (choose_chosen hallowed).mpr hboth⟩

/-! ## Pairs of switches -/

/-- Of a pair of switches, none is given twice without the other one in between. -/
def Alternates (pair : Bool → Switch) (choices : List Choice) : Prop :=
  ∀ on before between after,
    choices = before ++ .switch (pair on) :: (between ++ .switch (pair on) :: after) →
    .switch (pair !on) ∈ between

theorem injective_checks : Switch.checks.Injective := fun _ _ => Switch.checks.inj

theorem injective_stopOnFailure : Switch.stopOnFailure.Injective :=
  fun _ _ => Switch.stopOnFailure.inj

theorem turn?_eq_some_iff (hpair : pair.Injective) :
    choice.turn? pair = some on ↔ choice = .switch (pair on) := by
  unfold Choice.turn?
  split_ifs with htrue hfalse
  · cases on <;> simp [htrue, hpair.eq_iff]
  · cases on <;> simp [hfalse, hpair.eq_iff]
  · cases on <;> simp [htrue, hfalse]

theorem mem_turns_iff (hpair : pair.Injective) :
    on ∈ turns pair choices ↔ .switch (pair on) ∈ choices := by
  simp [turns, turn?_eq_some_iff hpair]

theorem turns_cons_switch (hpair : pair.Injective) :
    turns pair (.switch (pair on) :: choices) = on :: turns pair choices :=
  List.filterMap_cons_some ((turn?_eq_some_iff hpair).mpr rfl)

/-- **Switches alternate if their turns do.** -/
theorem alternates_iff (hpair : pair.Injective) :
    Alternates pair choices ↔ (turns pair choices).IsChain (· ≠ ·) := by
  rw [List.isChain_iff_forall_rel_of_append_cons_cons]
  constructor
  · rintro h first _ front back hturns rfl
    -- equal turns beside each other are two choices without the other switch in between
    obtain ⟨before, rest, rfl, -, hrest⟩ := List.filterMap_eq_append_iff.mp hturns
    obtain ⟨skipped, choice, rest, rfl, -, hchoice, hrest⟩ := List.filterMap_eq_cons_iff.mp hrest
    obtain ⟨between, choice', after, rfl, hbetween, hchoice', -⟩ :=
      List.filterMap_eq_cons_iff.mp hrest
    obtain rfl := (turn?_eq_some_iff hpair).mp hchoice
    obtain rfl := (turn?_eq_some_iff hpair).mp hchoice'
    have hmem := h first (before ++ skipped) between after (by rw [List.append_assoc])
    have hnone := hbetween _ hmem
    rw [(turn?_eq_some_iff hpair).mpr rfl] at hnone
    cases hnone
  · rintro h on before between after rfl
    rw [← mem_turns_iff hpair]
    simp only [turns_append, turns_cons_switch hpair] at h
    cases hbetween : turns pair between with
    | nil =>
      rw [hbetween] at h
      exact absurd rfl (h rfl)
    | cons first rest =>
      rw [hbetween] at h
      have hne : on ≠ first := h rfl
      rw [Bool.eq_not_of_ne hne.symm]
      exact List.mem_cons_self

/-! ## Order -/

/-- The kinds of choices: each option, and each pair of switches. -/
inductive Kind where
  | value (option : ValueOption)
  | checks
  | stopOnFailure
  deriving DecidableEq, Repr

/-- The kind of a choice. -/
def Choice.kind : Choice → Kind
  | .value option _ => .value option
  | .switch (.checks _) => .checks
  | .switch (.stopOnFailure _) => .stopOnFailure

/-- Two choices of different kinds beside each other change places. -/
inductive Exchange : List Choice → List Choice → Prop
  | swap (before after : List Choice) {first second : Choice} (h : first.kind ≠ second.kind) :
      Exchange (before ++ first :: second :: after) (before ++ second :: first :: after)

/-- Choices in another order, in which those of one kind stand as before. -/
abbrev Reordered : List Choice → List Choice → Prop :=
  Relation.ReflTransGen Exchange

theorem kind_of_text? (choice : Choice) (h : choice.text? option ≠ none) :
    choice.kind = .value option := by
  cases choice with
  | switch switch => exact absurd rfl h
  | value other text =>
    by_cases hother : other = option
    · exact congrArg Kind.value hother
    · exact absurd (if_neg hother) h

theorem kind_of_checks (choice : Choice) (h : choice.turn? .checks ≠ none) :
    choice.kind = .checks := by
  obtain ⟨on, hon⟩ := Option.ne_none_iff_exists'.mp h
  rw [(turn?_eq_some_iff injective_checks).mp hon]
  rfl

theorem kind_of_stopOnFailure (choice : Choice) (h : choice.turn? .stopOnFailure ≠ none) :
    choice.kind = .stopOnFailure := by
  obtain ⟨on, hon⟩ := Option.ne_none_iff_exists'.mp h
  rw [(turn?_eq_some_iff injective_stopOnFailure).mp hon]
  rfl

section filterMap

variable {α : Type} {f : Choice → Option α} {kind : Kind}

/-- What is told by choices of one kind only is told in the same order. -/
theorem Exchange.filterMap_eq (hf : ∀ choice, f choice ≠ none → choice.kind = kind)
    (h : Exchange choices choices') : choices'.filterMap f = choices.filterMap f := by
  cases h with
  | @swap before after first second hkind =>
    have hnone : f first = none ∨ f second = none := by
      by_contra hboth
      obtain ⟨hfirst, hsecond⟩ := not_or.mp hboth
      exact hkind ((hf first hfirst).trans (hf second hsecond).symm)
    rcases hnone with hnone | hnone <;> simp [List.filterMap_cons, hnone]

theorem Reordered.filterMap_eq (hf : ∀ choice, f choice ≠ none → choice.kind = kind)
    (h : Reordered choices choices') : choices'.filterMap f = choices.filterMap f := by
  induction h with
  | refl => rfl
  | tail _ hstep ih => exact (hstep.filterMap_eq hf).trans ih

end filterMap

namespace Reordered

theorem texts_eq (h : Reordered choices choices') : texts option choices' = texts option choices :=
  h.filterMap_eq kind_of_text?

theorem turns_checks_eq (h : Reordered choices choices') :
    turns .checks choices' = turns .checks choices := h.filterMap_eq kind_of_checks

theorem turns_stopOnFailure_eq (h : Reordered choices choices') :
    turns .stopOnFailure choices' = turns .stopOnFailure choices :=
  h.filterMap_eq kind_of_stopOnFailure

/-- **What choices amount to** does not depend on the order of those of different kinds. -/
theorem chosen_eq (h : Reordered choices choices') : chosen choices' = chosen choices := by
  simp only [chosen, h.texts_eq, h.turns_checks_eq, h.turns_stopOnFailure_eq]

/-- **Whether choices can be made** does not depend on it either. -/
theorem allowed_iff (h : Reordered choices choices') : Allowed choices' ↔ Allowed choices := by
  simp only [CommandLine.allowed_iff, h.texts_eq, h.turns_checks_eq, h.turns_stopOnFailure_eq]

end Reordered

end SessionReplay.CommandLine
