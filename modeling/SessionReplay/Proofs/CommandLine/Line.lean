import Mathlib.Data.List.Forall2
import Mathlib.Tactic.SplitIfs
import SessionReplay.CommandLine.Read
import SessionReplay.Proofs.Outcome

/-!
# Lines that describe a conversion

* `Choice` — an option of a conversion with its value, or a switch;
* `Choice.Writes`, `WritesLine` — the words that write a choice, and the arguments that write
  choices with a path between them;
* `addChoice`, `choose` — a choice that is checked when more is read, and one that is checked at
  once;
* `addArguments_choices`: the words of choices are read one choice after the other;
* `settle_foldlM`: in the end it makes no difference when they are checked;
* **`readCommandLine_eq_ok_iff`**: a line is read if its path says something and its choices can be
  made one after the other.
-/

namespace SessionReplay.CommandLine

/-! ## Words -/

/-- The words that stand for an option with a value. -/
def ValueOption.flags : ValueOption → List String
  | output => ["-O", "--output"]
  | only => ["--only"]
  | skip => ["--skip"]
  | threshold => ["--batch-threshold"]

/-- The word that stands for a switch. -/
def Switch.flag : Switch → String
  | checks true => "--enable-status-code-checks"
  | checks false => "--no-enable-status-code-checks"
  | stopOnFailure true => "--return-on-failed-check"
  | stopOnFailure false => "--no-return-on-failed-check"

/-- One choice for a conversion: an option with its value, or a switch. -/
inductive Choice where
  | value (option : ValueOption) (text : String)
  | switch (switch : Switch)
  deriving DecidableEq, Repr

/-- A word that does not begin with a dash. -/
def Plain (text : String) : Prop :=
  text.toList.head? ≠ some '-'

instance (text : String) : Decidable (Plain text) :=
  inferInstanceAs (Decidable (_ ≠ _))

/-- The words that write a choice. A value stands in a word of its own. -/
inductive Choice.Writes : Choice → List String → Prop
  | value {option : ValueOption} {flag text : String} (hflag : flag ∈ option.flags)
      (htext : Plain text) : Writes (.value option text) [flag, text]
  | switch (switch : Switch) : Writes (.switch switch) [switch.flag]

/-- The arguments of a conversion that write choices in their order, and a path at any place between
them. -/
inductive WritesLine : List Choice → String → List String → Prop
  | between {before after : List Choice} {front back : List (List String)} {path : String}
      (hfront : List.Forall₂ Choice.Writes before front)
      (hback : List.Forall₂ Choice.Writes after back) (hpath : Plain path) :
      WritesLine (before ++ after) path ("convert" :: (front.flatten ++ path :: back.flatten))

variable {choices before after : List Choice} {choice : Choice} {option : ValueOption}
  {switch : Switch} {p q : Progress} {o : Overrides} {command : Command}
  {flag text path : String} {words rest arguments : List String} {front back : List (List String)}

theorem ofString_of_plain (h : Plain text) : Word.ofString text = .plain text := by
  unfold Plain at h
  unfold Word.ofString
  split
  · next hdashes =>
    rw [hdashes] at h
    exact absurd rfl h
  · next hdashes =>
    rw [hdashes] at h
    exact absurd rfl h
  · next hdash =>
    rw [hdash] at h
    exact absurd rfl h
  · rfl

/-! ## Choices -/

/-- A choice that is checked when more is read. -/
def addChoice (p : Progress) : Choice → Except Halt Progress
  | .value option text => do return { ← settle p with pending := .value option text }
  | .switch switch => do
    let q ← settle p
    return { q with overrides := ← setSwitch q.overrides switch }

/-- A choice that is checked at once. -/
def choose (o : Overrides) : Choice → Except Halt Overrides
  | .value option text => setValue o text option
  | .switch switch => setSwitch o switch

theorem addArguments_value (hflag : flag ∈ option.flags) (htext : Plain text) :
    addArguments false p (flag :: text :: rest) =
      addChoice p (.value option text) >>= fun q => addArguments false q rest := by
  have hawait : addArguments false p (flag :: text :: rest) =
      addOption p option none >>= fun q => addArguments false q (text :: rest) := by
    rw [addArguments]
    cases option <;>
      simp only [ValueOption.flags, List.mem_cons, List.not_mem_nil, or_false] at hflag
    · rcases hflag with rfl | rfl <;> rfl
    all_goals
      rw [hflag]
      rfl
  rw [hawait, addOption, addChoice]
  cases settle p with
  | error halt => rfl
  | ok q =>
    change addArguments false _ (text :: rest) = _
    rw [addArguments, ofString_of_plain htext]
    rfl

theorem addArguments_switch : addArguments false p (switch.flag :: rest) =
    addChoice p (.switch switch) >>= fun q => addArguments false q rest := by
  have hflag : addArguments false p (switch.flag :: rest) =
      addWithoutValue p none (fun p => do
        return { p with overrides := ← setSwitch p.overrides switch }) >>= fun q =>
      addArguments false q rest := by
    rw [addArguments]
    rcases switch with (_ | _) | (_ | _) <;> rfl
  exact hflag

theorem addArguments_choice (h : choice.Writes words) : addArguments false p (words ++ rest) =
    addChoice p choice >>= fun q => addArguments false q rest := by
  cases h with
  | value hflag htext => exact addArguments_value hflag htext
  | switch switch => exact addArguments_switch

/-- **The words of choices are read one choice after the other.** -/
theorem addArguments_choices (h : List.Forall₂ Choice.Writes choices front) :
    addArguments false p (front.flatten ++ rest) =
      choices.foldlM addChoice p >>= fun q => addArguments false q rest := by
  induction h generalizing p with
  | nil => rfl
  | cons hchoice _ ih =>
    rw [List.flatten_cons, List.append_assoc, addArguments_choice hchoice, List.foldlM_cons,
      bind_assoc]
    exact bind_congr fun q => ih

/-! ## Checks -/

theorem pending_of_settle (h : settle p = .ok q) : q.pending = .nothing := by
  unfold settle at h
  split at h
  · obtain rfl := Except.ok.inj h
    assumption
  · cases h
  · obtain ⟨_, -, hq⟩ := bind_eq_ok_iff.mp h
    rw [← Except.ok.inj hq]
  · split_ifs at h
    rw [← Except.ok.inj h]

theorem settle_addChoice (p : Progress) (choice : Choice) : addChoice p choice >>= settle =
    settle p >>= fun q => (choose q.overrides choice).map fun o => { q with overrides := o } := by
  cases hq : settle p with
  | error halt => cases choice <;> rw [addChoice, hq] <;> rfl
  | ok q =>
    have hpending := pending_of_settle hq
    obtain ⟨overrides, path, pending⟩ := q
    obtain rfl : pending = .nothing := hpending
    cases choice with
    | value option text =>
      rw [addChoice, hq]
      change setValue overrides text option >>= _ = (setValue overrides text option).map _
      cases setValue overrides text option <;> rfl
    | switch switch =>
      rw [addChoice, hq]
      change (setSwitch overrides switch >>= _) >>= settle = (setSwitch overrides switch).map _
      cases setSwitch overrides switch <;> rfl

/-- That a value is checked only when more is read makes no difference in the end. -/
theorem settle_foldlM (choices : List Choice) (p : Progress) :
    choices.foldlM addChoice p >>= settle = settle p >>= fun q =>
      (choices.foldlM choose q.overrides).map fun o => { q with overrides := o } := by
  induction choices generalizing p with
  | nil =>
    change settle p = settle p >>= _
    cases settle p <;> rfl
  | cons choice choices ih =>
    rw [List.foldlM_cons, bind_assoc]
    calc _ = addChoice p choice >>= fun q => settle q >>= fun q =>
          (choices.foldlM choose q.overrides).map fun o => { q with overrides := o } :=
        bind_congr fun q => ih q
      _ = _ := by
        rw [← bind_assoc, settle_addChoice, bind_assoc]
        refine bind_congr fun q => ?_
        rw [List.foldlM_cons]
        cases choose q.overrides choice <;> rfl

/-! ## Paths -/

/-- No path is read so far, and no value is awaited. -/
structure Open (p : Progress) : Prop where
  path : p.path = none
  pending : p.pending = .nothing ∨ ∃ option text, p.pending = .value option text

theorem Open.path_of_settle (hp : Open p) (h : settle p = .ok q) : q.path = none := by
  unfold settle at h
  rcases hp.pending with hpending | ⟨option, text, hpending⟩
  · rw [hpending] at h
    rw [← Except.ok.inj h]
    exact hp.path
  · rw [hpending] at h
    obtain ⟨_, -, hq⟩ := bind_eq_ok_iff.mp h
    rw [← Except.ok.inj hq]
    exact hp.path

theorem Open.addChoice (hp : Open p) (h : CommandLine.addChoice p choice = .ok q) : Open q := by
  cases choice with
  | value option text =>
    obtain ⟨settled, hsettle, hq⟩ := bind_eq_ok_iff.mp h
    have hpath := hp.path_of_settle hsettle
    rw [← Except.ok.inj hq]
    exact ⟨hpath, .inr ⟨option, text, rfl⟩⟩
  | switch switch =>
    obtain ⟨settled, hsettle, hq⟩ := bind_eq_ok_iff.mp h
    obtain ⟨_, -, hq⟩ := bind_eq_ok_iff.mp hq
    have hpath := hp.path_of_settle hsettle
    have hpending := pending_of_settle hsettle
    rw [← Except.ok.inj hq]
    exact ⟨hpath, .inl hpending⟩

theorem Open.addChoices (hp : Open p) (h : choices.foldlM CommandLine.addChoice p = .ok q) :
    Open q := by
  induction choices generalizing p with
  | nil =>
    rw [← Except.ok.inj h]
    exact hp
  | cons choice choices ih =>
    rw [List.foldlM_cons] at h
    obtain ⟨next, hnext, hrest⟩ := bind_eq_ok_iff.mp h
    exact ih (hp.addChoice hnext) hrest

theorem Open.addPlain (hp : Open p) (path : String) : CommandLine.addPlain p path =
    settle p >>= fun q => .ok { q with pending := .path path } := by
  unfold CommandLine.addPlain addPath
  rcases hp.pending with hpending | ⟨option, text, hpending⟩ <;>
    simp only [hpending, hp.path, Option.isSome_none, Bool.false_eq_true, if_false] <;> rfl

/-- What a path and the choices behind it make of all that is checked before. -/
def finish (path : String) (after : List Choice) (q : Progress) : Except Halt Progress :=
  if path.isEmpty then .error .badValue
  else (after.foldlM choose q.overrides).map fun o => ⟨o, some path, .nothing⟩

theorem finish_eq_ok_iff : finish path after p = .ok q ↔
    path ≠ "" ∧ ∃ o, after.foldlM choose p.overrides = .ok o ∧ ⟨o, some path, .nothing⟩ = q := by
  rw [finish, ite_error_eq_ok_iff, map_eq_ok_iff, String.isEmpty_iff]

theorem addArguments_path (hp : Open p) (hpath : Plain path)
    (hback : List.Forall₂ Choice.Writes after back) :
    addArguments false p (path :: back.flatten) = settle p >>= finish path after := by
  rw [addArguments, ofString_of_plain hpath]
  change addPlain p path >>= (fun q => addArguments false q back.flatten) = _
  rw [hp.addPlain, bind_assoc]
  refine bind_congr fun q => ?_
  change addArguments false { q with pending := .path path } back.flatten = _
  rw [← List.append_nil back.flatten, addArguments_choices hback]
  simp only [addArguments]
  rw [settle_foldlM, finish]
  change (if path.isEmpty then _ else _) >>= _ = _
  split_ifs <;> rfl

/-! ## Lines -/

/-- A line is read as if its choices and its path were checked at once. -/
theorem addArguments_line (hfront : List.Forall₂ Choice.Writes before front)
    (hback : List.Forall₂ Choice.Writes after back) (hpath : Plain path) :
    addArguments false {} (front.flatten ++ path :: back.flatten) =
      before.foldlM choose {} >>= fun o => finish path after { overrides := o } := by
  have hchecked : addArguments false {} (front.flatten ++ path :: back.flatten) =
      (before.foldlM addChoice {} >>= settle) >>= finish path after := by
    rw [addArguments_choices hfront, bind_assoc]
    cases hbefore : before.foldlM addChoice {} with
    | error halt => rfl
    | ok p =>
      have hstart : Open {} := ⟨rfl, .inl rfl⟩
      exact addArguments_path (hstart.addChoices hbefore) hpath hback
  rw [hchecked, settle_foldlM]
  change (before.foldlM choose {}).map _ >>= _ = _
  cases before.foldlM choose {} <;> rfl

/-- **When a line is read.** Its path says something, and its choices can be made one after the
other. -/
theorem readCommandLine_eq_ok_iff (program : String) (h : WritesLine choices path arguments) :
    readCommandLine (program :: arguments) = .ok command ↔
      path ≠ "" ∧ ∃ o, choices.foldlM choose {} = .ok o ∧ command = .convert path o := by
  obtain ⟨hfront, hback, hpath⟩ := h
  change (addArguments false {} _ >>= _) = _ ↔ _
  rw [addArguments_line hfront hback hpath]
  simp only [List.foldlM_append, bind_eq_ok_iff, finish_eq_ok_iff]
  constructor
  · rintro ⟨_, ⟨first, hbefore, hne, o, hafter, rfl⟩, hcommand⟩
    exact ⟨hne, o, ⟨first, hbefore, hafter⟩, (Except.ok.inj hcommand).symm⟩
  · rintro ⟨hne, o, ⟨first, hbefore, hafter⟩, rfl⟩
    exact ⟨_, ⟨first, hbefore, hne, o, hafter, rfl⟩, rfl⟩

end SessionReplay.CommandLine
