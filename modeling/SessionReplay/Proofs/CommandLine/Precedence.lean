import SessionReplay.Proofs.CommandLine.Choices

/-!
# Choices before preferences

* `Accepted`, `Says`, `Prevails` — when a line makes up a conversion, what it says, and which output
  and settings follow from it;
* `resolve?_eq_none_iff`, `resolve?_eq_some`: overrides lack settings only for a threshold that is
  too great, and else come before the preferences one by one;
* `says_chosen`, `prevails_chosen`: what choices amount to is what the line says;
* **`read_choices`**: a line is read if it makes up a conversion; its choices come before the
  preferences, and the order of different kinds does not count.
-/

namespace SessionReplay

variable {o : Overrides} {prefs : Preferences} {output : String} {settings : Settings}

/-! ## Overrides -/

theorem Word64.fitsSigned_natCast_iff (n : Nat) : Word64.fitsSigned n = true ↔ n ≤ 2 ^ 63 - 1 := by
  simp only [Word64.fitsSigned, Bool.and_eq_true, decide_eq_true_eq]
  have hhalf : Word64.half = 2 ^ 63 := rfl
  omega

namespace Overrides

theorem any_cast_iff {P : Int → Bool} (n? : Option Nat) :
    (Option.any P do return (← n?)) = true ↔ ∃ n ∈ n?, P n = true := by
  cases n? <;> simp

/-- **Overrides lack settings** only for a threshold that is too great. -/
theorem resolve?_eq_none_iff : o.resolve? prefs = none ↔ ∃ n ∈ o.threshold, 2 ^ 63 - 1 < n := by
  have hlarge : (o.threshold.any fun ms => !Word64.fitsSigned ms) = true ↔
      ∃ n ∈ o.threshold, 2 ^ 63 - 1 < n := by
    simp only [any_cast_iff, Bool.not_eq_true', ← Bool.not_eq_true, Word64.fitsSigned_natCast_iff,
      Nat.not_le]
  rw [← hlarge, resolve?]
  split_ifs with h
  · exact iff_of_true rfl h
  · exact iff_of_false nofun h

theorem resolve?_eq_some (h : o.resolve? prefs = some (output, settings)) :
    output = o.output.getD prefs.output ∧ settings =
      { only := listOr o.only prefs.only
        skip := listOr o.skip prefs.skip
        threshold := (o.threshold.map Int.ofNat).getD prefs.threshold
        checks := o.checks.getD prefs.checks
        stopOnFailure := o.stopOnFailure.getD prefs.stopOnFailure } := by
  unfold resolve? at h
  split_ifs at h
  obtain ⟨rfl, rfl⟩ := Prod.mk.inj (Option.some.inj h)
  exact ⟨rfl, rfl⟩

end Overrides

namespace CommandLine

variable {choices : List Choice} {path program : String} {arguments : List String}
  {command : Command}

/-! ## What a line says -/

/-- A path and choices that make up a conversion. -/
structure Accepted (path : String) (choices : List Choice) : Prop where
  path : path ≠ ""
  output : ∀ file ∈ texts .output choices, file ≠ ""
  outputOnce : (texts .output choices).length ≤ 1
  threshold : ∀ text ∈ texts .threshold choices, ∃ n, WritesNumber text n
  thresholdOnce : (texts .threshold choices).length ≤ 1
  checks : Alternates .checks choices
  stopOnFailure : Alternates .stopOnFailure choices

/-- A list is made of the parts of texts between their commas, one text after the other. -/
def Gathers (texts all : List String) : Prop :=
  ∃ parts, List.Forall₂ SplitsAtCommas texts parts ∧ all = parts.flatten

/-- What choices say. Of a pair of switches the last one counts. -/
structure Says (choices : List Choice) (o : Overrides) : Prop where
  output : o.output = (texts .output choices).head?
  only : Gathers (texts .only choices) o.only
  skip : Gathers (texts .skip choices) o.skip
  threshold : List.Forall₂ WritesNumber (texts .threshold choices) o.threshold.toList
  checks : o.checks = (turns .checks choices).getLast?
  stopOnFailure : o.stopOnFailure = (turns .stopOnFailure choices).getLast?

/-- An output and settings that follow the choices, and the preferences where there is no choice. -/
structure Prevails (choices : List Choice) (prefs : Preferences) (output : String)
    (settings : Settings) : Prop where
  output : output = (texts .output choices).headD prefs.output
  only : if texts .only choices = [] then settings.only = prefs.only
    else Gathers (texts .only choices) settings.only
  skip : if texts .skip choices = [] then settings.skip = prefs.skip
    else Gathers (texts .skip choices) settings.skip
  threshold : if texts .threshold choices = [] then settings.threshold = prefs.threshold
    else ∃ text n, texts .threshold choices = [text] ∧ WritesNumber text n ∧ settings.threshold = n
  checks : settings.checks = (turns .checks choices).getLast?.getD prefs.checks
  stopOnFailure : settings.stopOnFailure =
    (turns .stopOnFailure choices).getLast?.getD prefs.stopOnFailure

theorem accepted_iff : Accepted path choices ↔ path ≠ "" ∧ Allowed choices := by
  constructor
  · intro h
    refine ⟨h.path, ⟨h.outputOnce, h.output⟩, ⟨h.thresholdOnce, fun text htext => ?_⟩, ?_, ?_⟩
    · exact isSome_number?_iff.mpr (h.threshold text htext)
    · exact (alternates_iff injective_checks).mp h.checks
    · exact (alternates_iff injective_stopOnFailure).mp h.stopOnFailure
  · rintro ⟨hpath, h⟩
    exact {
      path := hpath
      output := h.output.forall_mem
      outputOnce := h.output.length
      threshold := fun text htext => isSome_number?_iff.mp (h.threshold.forall_mem text htext)
      thresholdOnce := h.threshold.length
      checks := (alternates_iff injective_checks).mpr h.checks
      stopOnFailure := (alternates_iff injective_stopOnFailure).mpr h.stopOnFailure }

/-! ## What choices amount to -/

theorem gathers_flatMap (texts : List String) : Gathers texts (texts.flatMap commaParts) := by
  refine ⟨texts.map commaParts, ?_, List.flatMap_def⟩
  rw [List.forall₂_map_right_iff, List.forall₂_same]
  exact fun text _ => splitsAtCommas_iff.mpr rfl

theorem says_chosen (h : Allowed choices) : Says choices (chosen choices) := by
  refine ⟨?_, gathers_flatMap _, gathers_flatMap _, ?_, rfl, rfl⟩
  · rcases h.output.eq_nil_or with hnil | ⟨file, hfile, -⟩ <;> simp [chosen, *]
  · rcases h.threshold.eq_nil_or with hnil | ⟨text, htext, hnumber⟩
    · simp [chosen, hnil]
    · obtain ⟨n, hn⟩ := Option.isSome_iff_exists.mp hnumber
      simpa [chosen, htext, hn] using number?_eq_some_iff.mp hn

/-- A list of the command line is never empty, so it comes before the preferred one. -/
theorem listOr_flatMap (texts preferred : List String) :
    if texts = [] then Overrides.listOr (texts.flatMap commaParts) preferred = preferred
    else Gathers texts (Overrides.listOr (texts.flatMap commaParts) preferred) := by
  cases texts with
  | nil => rfl
  | cons text texts =>
    have hne : (text :: texts).flatMap commaParts ≠ [] := by
      rw [List.flatMap_cons]
      exact List.append_ne_nil_of_left_ne_nil (splitsAtCommas_commaParts text).ne_nil _
    rw [if_neg nofun, Overrides.listOr, if_neg (by simpa using hne)]
    exact gathers_flatMap _

theorem prevails_chosen (h : Allowed choices)
    (hresolve : (chosen choices).resolve? prefs = some (output, settings)) :
    Prevails choices prefs output settings := by
  obtain ⟨rfl, rfl⟩ := Overrides.resolve?_eq_some hresolve
  refine ⟨?_, listOr_flatMap _ _, listOr_flatMap _ _, ?_, rfl, rfl⟩
  · rcases h.output.eq_nil_or with hnil | ⟨file, hfile, -⟩ <;> simp [chosen, *]
  · rcases h.threshold.eq_nil_or with hnil | ⟨text, htext, hnumber⟩
    · simp [chosen, hnil]
    · obtain ⟨n, hn⟩ := Option.isSome_iff_exists.mp hnumber
      rw [htext, if_neg (List.cons_ne_nil _ _)]
      exact ⟨text, n, rfl, number?_eq_some_iff.mp hn, by simp [chosen, htext, hn]⟩

theorem resolve?_chosen_eq_none_iff (h : Allowed choices) : (chosen choices).resolve? prefs = none ↔
    ∃ text ∈ texts .threshold choices, ∃ n, WritesNumber text n ∧ 2 ^ 63 - 1 < n := by
  rw [Overrides.resolve?_eq_none_iff]
  rcases h.threshold.eq_nil_or with hnil | ⟨text, htext, -⟩
  · simp [chosen, hnil]
  · simp [chosen, htext, ← number?_eq_some_iff]

/-! ## Lines -/

theorem readCommandLine_eq_ok_iff_accepted (h : WritesLine choices path arguments) :
    readCommandLine (program :: arguments) = .ok command ↔
      Accepted path choices ∧ command = .convert path (chosen choices) := by
  rw [readCommandLine_eq_ok_iff program h, accepted_iff, and_assoc]
  simp only [foldlM_choose_eq_ok_iff]
  constructor
  · rintro ⟨hpath, _, ⟨hallowed, rfl⟩, hcommand⟩
    exact ⟨hpath, hallowed, hcommand⟩
  · rintro ⟨hpath, hallowed, hcommand⟩
    exact ⟨hpath, _, ⟨hallowed, rfl⟩, hcommand⟩

/-- **Choices come before preferences, whatever their order.** A line of choices with a path between
them is read if it makes up a conversion. Its choices say what the conversion is, and each one comes
before the preferences, whatever these are; only a threshold that is too great has no settings. A
line with the path at another place, and with choices of different kinds in another order, fails or
is read in the same way. -/
theorem read_choices (program : String) (h : WritesLine choices path arguments) :
    ((∃ command, readCommandLine (program :: arguments) = .ok command) ↔ Accepted path choices) ∧
    (∀ command, readCommandLine (program :: arguments) = .ok command →
      ∃ o, command = .convert path o ∧ Says choices o ∧ ∀ prefs : Preferences,
        (o.resolve? prefs = none ↔
          ∃ text ∈ texts .threshold choices, ∃ n, WritesNumber text n ∧ 2 ^ 63 - 1 < n) ∧
        ∀ output settings, o.resolve? prefs = some (output, settings) →
          Prevails choices prefs output settings) ∧
    ∀ program' choices' arguments', Reordered choices choices' →
      WritesLine choices' path arguments' →
      (readCommandLine (program' :: arguments')).toOption =
        (readCommandLine (program :: arguments)).toOption := by
  refine ⟨?_, fun command hcommand => ?_, fun program' choices' arguments' hreordered h' => ?_⟩
  · simp only [readCommandLine_eq_ok_iff_accepted h, exists_and_left, exists_eq, and_true]
  · obtain ⟨haccepted, rfl⟩ := (readCommandLine_eq_ok_iff_accepted h).mp hcommand
    have hallowed := (accepted_iff.mp haccepted).2
    exact ⟨_, rfl, says_chosen hallowed, fun prefs => ⟨resolve?_chosen_eq_none_iff hallowed,
      fun output settings => prevails_chosen hallowed⟩⟩
  · refine Option.ext fun command => ?_
    rw [toOption_eq_some_iff, toOption_eq_some_iff, readCommandLine_eq_ok_iff_accepted h,
      readCommandLine_eq_ok_iff_accepted h', hreordered.chosen_eq, accepted_iff, accepted_iff,
      hreordered.allowed_iff]

/-- A line in which a switch is turned on, off and on again, and the same with an output and the
path further to the front. -/
theorem read_choices_turnedTwice :
    let choices : List Choice := [.switch (.checks true), .switch (.checks false),
      .value .output "x.js", .switch (.checks true)]
    let line := ["convert", "--enable-status-code-checks", "--no-enable-status-code-checks",
      "-O", "x.js", "s.har", "--enable-status-code-checks"]
    let reordered := ["convert", "--enable-status-code-checks", "s.har", "--output", "x.js",
      "--no-enable-status-code-checks", "--enable-status-code-checks"]
    Accepted "s.har" choices ∧
      (∃ o, readCommandLine ("har2k6" :: line) = .ok (.convert "s.har" o) ∧ Says choices o) ∧
      (readCommandLine ("har2k6" :: reordered)).toOption =
        (readCommandLine ("har2k6" :: line)).toOption := by
  intro choices line reordered
  have houtput (flag : String) (hflag : flag ∈ ValueOption.output.flags) :
      Choice.Writes (.value .output "x.js") [flag, "x.js"] := .value hflag (by decide)
  have hline : WritesLine choices "s.har" line :=
    .between (.cons (.switch _) (.cons (.switch _) (.cons (houtput "-O" (by decide)) .nil)))
      (.cons (.switch _) .nil) (by decide)
  have hreordered : WritesLine [.switch (.checks true), .value .output "x.js",
      .switch (.checks false), .switch (.checks true)] "s.har" reordered :=
    .between (.cons (.switch _) .nil) (.cons (houtput "--output" (by decide))
      (.cons (.switch _) (.cons (.switch _) .nil))) (by decide)
  have hexchange : Reordered choices [.switch (.checks true), .value .output "x.js",
      .switch (.checks false), .switch (.checks true)] :=
    .single (.swap [.switch (.checks true)] [.switch (.checks true)] (by decide))
  have hread : readCommandLine ("har2k6" :: line) =
      .ok (.convert "s.har" { output := some "x.js", checks := some true }) := rfl
  obtain ⟨haccepted, hsays, hsame⟩ := read_choices "har2k6" hline
  refine ⟨haccepted.mp ⟨_, hread⟩, ?_, hsame "har2k6" _ _ hexchange hreordered⟩
  obtain ⟨o, hcommand, ho, -⟩ := hsays _ hread
  exact ⟨o, hcommand ▸ hread, ho⟩

end CommandLine

end SessionReplay
