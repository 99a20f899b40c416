import SessionReplay.Preferences.Read
import SessionReplay.Proofs.Outcome
import SessionReplay.Proofs.Toml.Keys

/-!
# Documents of preferences

* `Preferences.Writes` — the keys and values that write preferences;
* `Preferences.IsDocument` — a text that writes preferences;
* `text_ok_iff`, `integer_ok_iff`, `boolean_ok_iff`, `texts_ok_iff`: a value of each kind
  has one written form;
* `Field` — what keys come to for one of the choices;
* `add_eq_ok_iff`, `foldlM_add_eq_ok_iff`, `complete_eq_ok_iff`: a key, all keys, and the end;
* **`read_eq_ok_iff`**: what is read of a text are the preferences that it writes.
-/

namespace SessionReplay.Preferences

open Toml (Value)

variable {α : Type} {entries : Toml.Entries} {entry : String × Value} {value : Value}
  {key document : String} {p q : Partial} {prefs other : Preferences}

/-! ## What a document is -/

/-- A key that may be left out writes a value, or is not there and leaves the default. -/
def WritesOr (entries : Toml.Entries) (key : String) (write : α → Value) (default a : α) : Prop :=
  entries.lookup key = some (write a) ∨ entries.lookup key = none ∧ a = default

/-- A list of texts, as it is written. -/
def listOf (items : List String) : Value := .list (items.map .text)

/-- Keys and values write preferences. Three keys must be there; three others may be left out. Each
has a value of its kind, and other keys do not count. -/
structure Writes (entries : Toml.Entries) (prefs : Preferences) : Prop where
  output : entries.lookup "output" = some (.text prefs.output)
  threshold : entries.lookup "batch_threshold_ms" = some (.integer prefs.threshold)
  checks : entries.lookup "enable_status_code_checks" = some (.boolean prefs.checks)
  stopOnFailure : WritesOr entries "return_on_failed_check" .boolean false prefs.stopOnFailure
  only : WritesOr entries "only" listOf [] prefs.only
  skip : WritesOr entries "skip" listOf [] prefs.skip

/-- A text writes preferences: its keys and values do. -/
def IsDocument (document : String) (prefs : Preferences) : Prop :=
  ∃ entries, Toml.read? document = some entries ∧ Writes entries prefs

/-! ## Values -/

theorem text_ok_iff {content : String} : text value = .ok content ↔ value = .text content := by
  cases value <;> simp [text]

theorem integer_ok_iff {n : Int} : integer value = .ok n ↔ value = .integer n := by
  cases value <;> simp [integer]

theorem boolean_ok_iff {b : Bool} : boolean value = .ok b ↔ value = .boolean b := by
  cases value <;> simp [boolean]

theorem mapM_text_ok_iff {values : List Value} {items : List String} :
    values.mapM text = .ok items ↔ values = items.map .text := by
  induction values generalizing items with
  | nil => cases items <;> simp [pure, Except.pure]
  | cons value values ih =>
    simp only [List.mapM_cons, bind_eq_ok_iff, text_ok_iff, ih, pure_eq_ok_iff]
    constructor
    · rintro ⟨content, rfl, later, rfl, rfl⟩
      rfl
    · intro h
      obtain ⟨content, later, rfl, rfl, rfl⟩ := List.map_eq_cons_iff.mp h.symm
      exact ⟨content, rfl, later, rfl, rfl⟩

theorem texts_ok_iff {items : List String} : texts value = .ok items ↔ value = listOf items := by
  cases value with
  | list values =>
    rw [listOf, Value.list.injEq]
    exact mapM_text_ok_iff
  | _ => exact iff_of_false nofun nofun

/-! ## Keys -/

section Choice

variable {read : Value → Except Fault α} {write : α → Value} {old new : Option α} {default a : α}

/-- What one key comes to for a choice: it is read if it is the key of the choice. -/
def Takes (read : Value → Except Fault α) (key : String) (entry : String × Value)
    (old new : Option α) : Prop :=
  if entry.1 = key then ∃ a, read entry.2 = .ok a ∧ new = some a else new = old

/-- What all keys come to for a choice. -/
def TakesAll (read : Value → Except Fault α) (key : String) (entries : Toml.Entries)
    (old new : Option α) : Prop :=
  match entries.lookup key with
  | none => new = old
  | some value => ∃ a, read value = .ok a ∧ new = some a

/-- Keys that stand once are read one by one. -/
theorem takesAll_cons (h : (Toml.Entries.keys (entry :: entries)).Nodup) :
    TakesAll read key (entry :: entries) old new ↔
      ∃ middle, Takes read key entry old middle ∧ TakesAll read key entries middle new := by
  obtain ⟨found, value⟩ := entry
  unfold TakesAll Takes
  by_cases hkey : found = key
  · subst hkey
    have hnone : entries.lookup found = none :=
      Toml.Entries.lookup_eq_none_iff.mpr (List.nodup_cons.mp h).1
    rw [List.lookup_cons_self, hnone]
    simp
  · have hne : (key == found) = false := beq_false_of_ne (Ne.symm hkey)
    rw [List.lookup_cons, hne]
    simp [hkey]

/-- A key that must be there is read of its one written form. -/
theorem takesAll_some_iff (h : ∀ value a, read value = .ok a ↔ value = write a) :
    TakesAll read key entries none (some a) ↔ entries.lookup key = some (write a) := by
  unfold TakesAll
  cases entries.lookup key <;> simp [h, eq_comm]

/-- And so is one that may be left out. -/
theorem takesAll_getD_iff (h : ∀ value a, read value = .ok a ↔ value = write a) :
    (∃ new, TakesAll read key entries none new ∧ new.getD default = a) ↔
      WritesOr entries key write default a := by
  unfold TakesAll WritesOr
  cases entries.lookup key <;> simp [h, eq_comm]

end Choice

theorem add_eq_ok_iff : p.add entry = .ok q ↔
    Takes text "output" entry p.output q.output ∧
    Takes integer "batch_threshold_ms" entry p.threshold q.threshold ∧
    Takes boolean "enable_status_code_checks" entry p.checks q.checks ∧
    Takes boolean "return_on_failed_check" entry p.stopOnFailure q.stopOnFailure ∧
    Takes texts "only" entry p.only q.only ∧ Takes texts "skip" entry p.skip q.skip := by
  obtain ⟨key, value⟩ := entry
  obtain ⟨output, threshold, checks, stopOnFailure, only, skip⟩ := p
  obtain ⟨output', threshold', checks', stopOnFailure', only', skip'⟩ := q
  unfold Partial.add Takes
  dsimp only
  split
  case h_7 h₁ h₂ h₃ h₄ h₅ h₆ =>
    rw [if_neg h₁, if_neg h₂, if_neg h₃, if_neg h₄, if_neg h₅, if_neg h₆, pure_eq_ok_iff,
      Partial.mk.injEq]
    grind
  all_goals
    simp only [bind_eq_ok_iff, pure_eq_ok_iff, Partial.mk.injEq, String.reduceEq, reduceIte]
    grind

/-- What all keys come to, for each choice by itself. -/
theorem foldlM_add_eq_ok_iff (h : entries.keys.Nodup) : entries.foldlM Partial.add p = .ok q ↔
    TakesAll text "output" entries p.output q.output ∧
    TakesAll integer "batch_threshold_ms" entries p.threshold q.threshold ∧
    TakesAll boolean "enable_status_code_checks" entries p.checks q.checks ∧
    TakesAll boolean "return_on_failed_check" entries p.stopOnFailure q.stopOnFailure ∧
    TakesAll texts "only" entries p.only q.only ∧ TakesAll texts "skip" entries p.skip q.skip := by
  induction entries generalizing p with
  | nil =>
    obtain ⟨output, threshold, checks, stopOnFailure, only, skip⟩ := p
    obtain ⟨output', threshold', checks', stopOnFailure', only', skip'⟩ := q
    rw [List.foldlM_nil, pure_eq_ok_iff, Partial.mk.injEq]
    simp only [TakesAll, List.lookup_nil, eq_comm]
  | cons entry entries ih =>
    rw [List.foldlM_cons, bind_eq_ok_iff]
    simp only [add_eq_ok_iff, ih (List.nodup_cons.mp h).2, takesAll_cons h]
    constructor
    · rintro ⟨middle, ⟨h₁, h₂, h₃, h₄, h₅, h₆⟩, h₁', h₂', h₃', h₄', h₅', h₆'⟩
      exact ⟨⟨_, h₁, h₁'⟩, ⟨_, h₂, h₂'⟩, ⟨_, h₃, h₃'⟩, ⟨_, h₄, h₄'⟩, ⟨_, h₅, h₅'⟩, _, h₆, h₆'⟩
    · rintro ⟨⟨output, h₁, h₁'⟩, ⟨threshold, h₂, h₂'⟩, ⟨checks, h₃, h₃'⟩, ⟨stops, h₄, h₄'⟩,
        ⟨only, h₅, h₅'⟩, skip, h₆, h₆'⟩
      exact ⟨⟨output, threshold, checks, stops, only, skip⟩, ⟨h₁, h₂, h₃, h₄, h₅, h₆⟩,
        h₁', h₂', h₃', h₄', h₅', h₆'⟩

theorem required_eq_ok_iff {a : α} {a? : Option α} : required key a? = .ok a ↔ a? = some a := by
  cases a? <;> simp [required]

theorem complete_eq_ok_iff : p.complete = .ok prefs ↔
    p.output = some prefs.output ∧ p.threshold = some prefs.threshold ∧
    p.checks = some prefs.checks ∧ p.stopOnFailure.getD false = prefs.stopOnFailure ∧
    p.only.getD [] = prefs.only ∧ p.skip.getD [] = prefs.skip := by
  obtain ⟨output, threshold, checks, stopOnFailure, only, skip⟩ := prefs
  simp only [Partial.complete, bind_eq_ok_iff, required_eq_ok_iff, pure_eq_ok_iff,
    Preferences.mk.injEq]
  constructor
  · rintro ⟨_, houtput, _, hthreshold, _, hchecks, rfl, rfl, rfl, hrest⟩
    exact ⟨houtput, hthreshold, hchecks, hrest⟩
  · rintro ⟨houtput, hthreshold, hchecks, hrest⟩
    exact ⟨_, houtput, _, hthreshold, _, hchecks, rfl, rfl, rfl, hrest⟩

/-! ## Documents -/

/-- The keys and values of a document are read as what they write. -/
theorem writes_iff (h : entries.keys.Nodup) : Writes entries prefs ↔
    ∃ p : Partial, entries.foldlM Partial.add {} = .ok p ∧ p.complete = .ok prefs := by
  simp only [foldlM_add_eq_ok_iff h, complete_eq_ok_iff]
  constructor
  · rintro ⟨houtput, hthreshold, hchecks, hstops, honly, hskip⟩
    obtain ⟨stops, hstops⟩ := (takesAll_getD_iff fun _ _ => boolean_ok_iff).mpr hstops
    obtain ⟨only, honly⟩ := (takesAll_getD_iff fun _ _ => texts_ok_iff).mpr honly
    obtain ⟨skip, hskip⟩ := (takesAll_getD_iff fun _ _ => texts_ok_iff).mpr hskip
    exact ⟨⟨_, _, _, stops, only, skip⟩,
      ⟨(takesAll_some_iff fun _ _ => text_ok_iff).mpr houtput,
        (takesAll_some_iff fun _ _ => integer_ok_iff).mpr hthreshold,
        (takesAll_some_iff fun _ _ => boolean_ok_iff).mpr hchecks, hstops.1, honly.1, hskip.1⟩,
      rfl, rfl, rfl, hstops.2, honly.2, hskip.2⟩
  · rintro ⟨p, ⟨houtput, hthreshold, hchecks, hstops, honly, hskip⟩,
      houtput', hthreshold', hchecks', hstops', honly', hskip'⟩
    rw [houtput', takesAll_some_iff fun _ _ => text_ok_iff] at houtput
    rw [hthreshold', takesAll_some_iff fun _ _ => integer_ok_iff] at hthreshold
    rw [hchecks', takesAll_some_iff fun _ _ => boolean_ok_iff] at hchecks
    exact ⟨houtput, hthreshold, hchecks,
      (takesAll_getD_iff fun _ _ => boolean_ok_iff).mp ⟨_, hstops, hstops'⟩,
      (takesAll_getD_iff fun _ _ => texts_ok_iff).mp ⟨_, honly, honly'⟩,
      (takesAll_getD_iff fun _ _ => texts_ok_iff).mp ⟨_, hskip, hskip'⟩⟩

/-- **What is read of a text** are the preferences that it writes. -/
theorem read_eq_ok_iff : read document = .ok prefs ↔ IsDocument document prefs := by
  unfold read IsDocument
  cases hentries : Toml.read? document with
  | none =>
    refine iff_of_false nofun ?_
    rintro ⟨_, h, -⟩
    cases h
  | some entries =>
    simp only [bind_eq_ok_iff, Option.some.injEq, exists_eq_left',
      writes_iff (Toml.nodup_read? hentries)]

/-- A text writes at most one choice of preferences. -/
theorem IsDocument.unique (h : IsDocument document prefs) (h' : IsDocument document other) :
    prefs = other :=
  Except.ok.inj ((read_eq_ok_iff.mpr h).symm.trans (read_eq_ok_iff.mpr h'))

end SessionReplay.Preferences
