import SessionReplay.Conversion
import SessionReplay.Proofs.Capture.Checked

/-!
# When a session makes a script

* `Settings.check_of_*`: which fault of settings counts;
* `Conversion.keptFrom_of_hosts`, `Conversion.keptFrom_noHost`: the filter keeps the allowed
  entries, or stops at the first one without a host;
* `convert_eq`: settings first, then entries;
* **`convert_decoded_and_any`**: a decoded session makes a script under valid settings, and any
  session fails with the first fault.
-/

namespace SessionReplay

open Capture (Archive Entry)

/-! ## Settings -/

theorem Settings.check_of_negative {settings : Settings} (h : settings.threshold < 0) :
    settings.check = .error (.negativeThreshold settings.threshold) := if_pos h

theorem Settings.check_of_stop {settings : Settings} (h : 0 ≤ settings.threshold)
    (hs : settings.stopOnFailure = true) (hc : settings.checks = false) :
    settings.check = .error .stopWithoutChecks := by
  rw [Settings.check, if_neg (by omega), if_pos (by simp [hs, hc])]

theorem Settings.check_of_valid {settings : Settings} (h : 0 ≤ settings.threshold)
    (hs : settings.stopOnFailure = true → settings.checks = true) : settings.check = .ok () := by
  rw [Settings.check, if_neg (by omega), if_neg]
  rintro ⟨hstop, hchecks⟩
  simp [hs hstop] at hchecks

namespace Conversion

/-! ## The filter -/

/-- The host of an entry passes a filter. -/
def passes (allowed : String → Bool) (entry : Entry) : Bool := entry.host?.any allowed

/-- **The filter keeps the allowed entries** in their order, if all have hosts. -/
theorem keptFrom_of_hosts {allowed : String → Bool} {index : Nat} {entries : List Entry}
    (h : ∀ e ∈ entries, e.host? ≠ none) :
    keptFrom allowed index entries = .ok (entries.filter (passes allowed)) := by
  induction entries generalizing index with
  | nil => rfl
  | cons entry entries ih =>
    rw [List.forall_mem_cons] at h
    obtain ⟨host, hhost⟩ := Option.ne_none_iff_exists'.mp h.1
    rw [keptFrom, hhost, List.filter_cons, passes, hhost, Option.any_some]
    simp only [ih h.2]
    rfl

/-- **The filter stops at the first entry without a host**, whether it would keep it or not. -/
theorem keptFrom_noHost {allowed : String → Bool} {index : Nat} {before after : List Entry}
    {entry : Entry} (hbefore : ∀ e ∈ before, e.host? ≠ none) (h : entry.host? = none) :
    keptFrom allowed index (before ++ entry :: after) =
      .error (.noHost (index + before.length) entry.request.url) := by
  induction before generalizing index with
  | nil =>
    rw [List.nil_append, keptFrom, h]
    rfl
  | cons first before ih =>
    rw [List.forall_mem_cons] at hbefore
    obtain ⟨host, hhost⟩ := Option.ne_none_iff_exists'.mp hbefore.1
    rw [List.cons_append, keptFrom, hhost]
    simp only [ih hbefore.2]
    rw [List.length_cons, Nat.add_right_comm, Nat.add_assoc]
    rfl

theorem exists_first_noHost {entries : List Entry} (h : ¬ ∀ e ∈ entries, e.host? ≠ none) :
    ∃ before entry after, entries = before ++ entry :: after ∧
      (∀ e ∈ before, e.host? ≠ none) ∧ entry.host? = none := by
  induction entries with
  | nil => simp at h
  | cons entry entries ih =>
    by_cases hhost : entry.host? = none
    · exact ⟨[], entry, entries, rfl, by simp, hhost⟩
    · have hrest : ¬ ∀ e ∈ entries, e.host? ≠ none := fun hall =>
        h (List.forall_mem_cons.mpr ⟨hhost, hall⟩)
      obtain ⟨before, bad, after, rfl, hbefore, hbad⟩ := ih hrest
      exact ⟨entry :: before, bad, after, rfl, List.forall_mem_cons.mpr ⟨hhost, hbefore⟩, hbad⟩

/-- The kept entries are those that pass the filter, if all entries have hosts. -/
theorem kept_eq_ok_iff {read : HostReader} {settings : Settings} {entries kept' : List Entry} :
    kept read settings entries = .ok kept' ↔ (∀ e ∈ entries, e.host? ≠ none) ∧
      entries.filter (passes
        ((DomainFilter.ofLists read settings.only settings.skip).allows read)) = kept' := by
  by_cases h : ∀ e ∈ entries, e.host? ≠ none
  · rw [kept, keptFrom_of_hosts h, Except.ok.injEq, and_iff_right h]
  · obtain ⟨before, entry, after, rfl, hbefore, hentry⟩ := exists_first_noHost h
    rw [kept, keptFrom_noHost hbefore hentry]
    exact ⟨fun hok => (by cases hok), fun hok => absurd hok.1 h⟩

end Conversion

/-! ## Conversions -/

/-- **Settings are checked first, then entries.** -/
theorem convert_eq (archive : Archive) (settings : Settings) :
    convert archive settings =
      match settings.check with
      | .error fault => .error (.settings fault)
      | .ok () => (Conversion.kept Url.Host.reader settings archive.entries).map fun entries =>
          (Conversion.scriptOf archive settings entries).text := by
  rw [convert, Conversion.script?]
  cases settings.check with
  | error fault => rfl
  | ok _ => cases Conversion.kept Url.Host.reader settings archive.entries <;> rfl

/-- A session makes a script if its settings are valid and its entries have hosts; the script is
that of the kept entries. -/
theorem convert_eq_ok_iff {archive : Archive} {settings : Settings} {text : String} :
    convert archive settings = .ok text ↔ settings.check = .ok () ∧
      ∃ entries, Conversion.kept Url.Host.reader settings archive.entries = .ok entries ∧
        (Conversion.scriptOf archive settings entries).text = text := by
  rw [convert_eq]
  cases settings.check with
  | error fault => simp
  | ok _ => simp [map_eq_ok_iff]

theorem convert_of_hosts {archive : Archive} {settings : Settings}
    (h : ∀ e ∈ archive.entries, e.host? ≠ none) (hs : settings.check = .ok ()) :
    ∃ text, convert archive settings = .ok text := by
  rw [convert_eq, hs, Conversion.kept, Conversion.keptFrom_of_hosts h]
  exact ⟨_, rfl⟩

theorem convert_noHost {archive : Archive} {settings : Settings} {index : Nat} {entry : Entry}
    (hs : settings.check = .ok ()) (hentry : archive.entries[index]? = some entry)
    (h : entry.host? = none)
    (hfirst : ∀ i < index, ∀ e, archive.entries[i]? = some e → e.host? ≠ none) :
    convert archive settings = .error (.noHost index entry.request.url) := by
  obtain ⟨hlt, hget⟩ := List.getElem?_eq_some_iff.mp hentry
  have hsplit : archive.entries =
      archive.entries.take index ++ entry :: archive.entries.drop (index + 1) := by
    rw [← hget, ← List.drop_eq_getElem_cons hlt, List.take_append_drop]
  have hbefore : ∀ e ∈ archive.entries.take index, e.host? ≠ none := by
    intro e he
    obtain ⟨i, hi, rfl⟩ := List.mem_take_iff_getElem.mp he
    exact hfirst i (by omega) _ (List.getElem?_eq_getElem (by omega))
  rw [convert_eq, hs, Conversion.kept, hsplit, Conversion.keptFrom_noHost hbefore h,
    List.length_take, Nat.min_eq_left hlt.le, Nat.zero_add]
  rfl

/-- **Decoded sessions always convert.** Every entry of a decoded session is checked, so that the
session makes a script if the settings are valid and otherwise fails with their fault. Any session
fails for a negative threshold, or else for a stop without checks, or else at its first entry
without a host, or else it makes a script. -/
theorem convert_decoded_and_any :
    (∀ bytes archive, Archive.decode bytes = .ok archive →
      (∀ e ∈ archive.entries, e.Checked) ∧
      ∀ settings : Settings,
        ((∃ text, convert archive settings = .ok text) ↔ settings.check = .ok ()) ∧
        ∀ fault, settings.check = .error fault →
          convert archive settings = .error (.settings fault)) ∧
    ∀ (archive : Archive) (settings : Settings),
      (settings.threshold < 0 →
        convert archive settings = .error (.settings (.negativeThreshold settings.threshold))) ∧
      (0 ≤ settings.threshold → settings.stopOnFailure = true → settings.checks = false →
        convert archive settings = .error (.settings .stopWithoutChecks)) ∧
      (0 ≤ settings.threshold → (settings.stopOnFailure = true → settings.checks = true) →
        (∀ index entry, archive.entries[index]? = some entry → entry.host? = none →
          (∀ i < index, ∀ e, archive.entries[i]? = some e → e.host? ≠ none) →
            convert archive settings = .error (.noHost index entry.request.url)) ∧
        ((∀ e ∈ archive.entries, e.host? ≠ none) →
          ∃ text, convert archive settings = .ok text)) := by
  have hfault : ∀ (archive : Archive) (settings : Settings) (fault : SettingsFault),
      settings.check = .error fault → convert archive settings = .error (.settings fault) :=
    fun archive settings fault h => by rw [convert_eq, h]
  refine ⟨fun bytes archive h => ?_, fun archive settings => ⟨fun ht => ?_, fun ht hs hc => ?_,
    fun ht hs => ⟨fun index entry hentry hhost hfirst => ?_, fun hhosts => ?_⟩⟩⟩
  · have hchecked := Archive.checked_of_decode h
    have hhosts : ∀ e ∈ archive.entries, e.host? ≠ none := by
      intro e he
      obtain ⟨host, hhost, -⟩ := (hchecked e he).host
      exact Option.ne_none_iff_exists'.mpr ⟨host, hhost⟩
    refine ⟨hchecked, fun settings => ⟨⟨fun ⟨text, htext⟩ => ?_, convert_of_hosts hhosts⟩,
      hfault archive settings⟩⟩
    cases hs : settings.check with
    | ok _ => rfl
    | error fault =>
      rw [hfault archive settings fault hs] at htext
      cases htext
  · exact hfault archive settings _ (Settings.check_of_negative ht)
  · exact hfault archive settings _ (Settings.check_of_stop ht hs hc)
  · exact convert_noHost (Settings.check_of_valid ht hs) hentry hhost hfirst
  · exact convert_of_hosts hhosts (Settings.check_of_valid ht hs)

/-- The bytes of a session with one entry. -/
def oneEntryDocument : List UInt8 :=
  Text.bytes <|
    "\x7b\"log\": \x7b\"entries\": [\x7b\"startedDateTime\": \"2020-01-01T00:00:00Z\"," ++
      "\"request\": \x7b\"method\": \"get\", \"url\": \"http://host.test/\"\x7d," ++
      "\"response\": \x7b\"status\": 200\x7d\x7d]\x7d\x7d"

theorem convert_oneEntryDocument : ∃ archive text,
    Archive.decode oneEntryDocument = .ok archive ∧ convert archive {} = .ok text := by
  have hdecodes : (Archive.decode oneEntryDocument).toOption.isSome = true := by decide +kernel
  cases hdecode : Archive.decode oneEntryDocument with
  | error fault =>
    rw [hdecode] at hdecodes
    cases hdecodes
  | ok archive =>
    have hconverts := (convert_decoded_and_any.1 oneEntryDocument archive hdecode).2 {}
    obtain ⟨text, htext⟩ := hconverts.1.mpr rfl
    exact ⟨archive, text, rfl, htext⟩

end SessionReplay
