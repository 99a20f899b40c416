import Mathlib.Algebra.Order.BigOperators.Group.List
import Mathlib.Tactic.Linarith
import Mathlib.Tactic.Ring
import SessionReplay.Proofs.Batch.Threshold
import SessionReplay.Proofs.Conversion.ReadBack
import SessionReplay.Proofs.Script.Sleep

/-!
# Pacing of scripts

* `Instant.NotAfter`, `Instant.count` — the order of instants, and the nanoseconds up to one;
* `Instant.gap_of_regular`: outside leap seconds a gap is a difference of counts;
* `Conversion.sleepArguments_scriptOf`: the sleeps of a session are its pauses;
* `Conversion.sum_pauses_bounds`: how much of the recorded time the pauses lose;
* **`convert_pacing`**: the sleeps of a script are true to the recorded times;
* **`split_under_higher_threshold`**: a higher threshold only puts batches of entries together.
-/

namespace SessionReplay

open Capture (Archive Entry)

/-! ## Instants -/

namespace Instant

/-- One instant is not after another. -/
def NotAfter (a b : Instant) : Prop :=
  a.seconds < b.seconds ∨ a.seconds = b.seconds ∧ a.nanoseconds ≤ b.nanoseconds

instance (a b : Instant) : Decidable (NotAfter a b) := instDecidableOr

/-- The nanoseconds up to an instant. -/
def count (a : Instant) : Int :=
  a.seconds * perSecond + a.nanoseconds

/-- **Outside leap seconds a gap is a difference of counts.** -/
theorem gap_of_regular {a b : Instant} (ha : a.inLeapSecond = false) (hb : b.inLeapSecond = false) :
    gap a b = b.count - a.count := by
  have hleap : leapAdjustment a b = 0 := by
    simp only [leapAdjustment, ha, hb, Bool.false_eq_true, and_false, if_false]
  simp only [gap, hleap, count, perSecond]
  omega

theorem gap_nonneg {a b : Instant} (ha : a.inLeapSecond = false) (hb : b.inLeapSecond = false)
    (h : NotAfter a b) : 0 ≤ gap a b := by
  have hlt : a.nanoseconds < perSecond := by simpa [inLeapSecond] using ha
  rw [gap_of_regular ha hb, count, count]
  rw [perSecond] at *
  rcases h with h | ⟨h, hle⟩ <;> omega

end Instant

namespace Conversion

/-! ## Sleeps -/

/-- **The sleeps of a session are its pauses**, as seconds. -/
theorem sleepArguments_scriptOf (archive : Archive) (settings : Settings) (entries : List Entry) :
    Script.sleepArguments (scriptOf archive settings entries).text =
      (Batch.pauses (batches settings entries)).map fun pause =>
        Script.seconds (pauseMilliseconds pause) := by
  rw [Script.sleepArguments_text (notesOneLine_scriptOf archive settings entries), scriptOf,
    List.filterMap_map, Batch.pauses, List.map_filterMap]
  refine List.filterMap_congr fun batch _ => ?_
  rw [Function.comp_apply, step, Option.map_map]
  rfl

theorem pauseMilliseconds_of_nonneg {pause : Int} (h : 0 ≤ pause) :
    (pauseMilliseconds pause : Int) = pause / 1000000 := by
  rw [pauseMilliseconds, Settings.perMillisecond]
  omega

theorem gapThreshold_of_nonneg {settings : Settings} (h : 0 ≤ settings.threshold) :
    settings.gapThreshold = settings.threshold * 1000000 := by
  rw [Settings.gapThreshold, max_eq_left h]
  rfl

theorem threshold_nonneg {settings : Settings} (h : settings.check = .ok ()) :
    0 ≤ settings.threshold := by
  by_contra hneg
  rw [Settings.check_of_negative (not_le.mp hneg)] at h
  cases h

/-! ## Sums -/

/-- The whole milliseconds of a list of pauses lose less than one millisecond each. -/
theorem sum_div_bounds (pauses : List Int) :
    1000000 * (pauses.map (· / 1000000)).sum ≤ pauses.sum ∧
      pauses.sum ≤ 1000000 * ((pauses.map (· / 1000000)).sum + pauses.length) := by
  induction pauses with
  | nil => exact ⟨le_rfl, le_rfl⟩
  | cons pause pauses ih =>
    rw [List.map_cons, List.sum_cons, List.sum_cons, List.length_cons]
    omega

/-- **How much of the recorded time the pauses lose**: what lies inside batches, which is less than
the threshold for each two neighbours, and the parts of milliseconds. -/
theorem sum_pauses_bounds {settings : Settings} {entries : List Entry} {first last : Entry}
    (hthreshold : 0 ≤ settings.threshold)
    (horder : entries.IsChain fun a b => a.started.NotAfter b.started)
    (hregular : ∀ e ∈ entries, e.started.inLeapSecond = false)
    (hfirst : entries.head? = some first) (hlast : entries.getLast? = some last) :
    1000000 * ((Batch.pauses (batches settings entries)).map (· / 1000000)).sum ≤ gap first last ∧
      gap first last ≤ 1000000 *
        (((Batch.pauses (batches settings entries)).map (· / 1000000)).sum +
          (Batch.neighbours (batches settings entries)).length * settings.threshold +
            (Batch.pauses (batches settings entries)).length) := by
  have hgap : ∀ x ∈ entries, ∀ y ∈ entries, gap x y = y.started.count - x.started.count :=
    fun x hx y hy => Instant.gap_of_regular (hregular x hx) (hregular y hy)
  have hnonneg : entries.IsChain fun a b => 0 ≤ gap a b :=
    horder.imp_of_mem_imp fun x y hx hy hxy =>
      Instant.gap_nonneg (hregular x hx) (hregular y hy) hxy
  have hsum : (Batch.gaps gap entries).sum = gap first last := by
    have hends := hgap first (List.mem_of_mem_head? hfirst) last (List.mem_of_mem_getLast? hlast)
    obtain ⟨rest, rfl⟩ := List.head?_eq_some_iff.mp hfirst
    rw [Batch.sum_gaps hgap hlast, hends]
  have hscale (n : Int) : n * (settings.threshold * 1000000) =
      1000000 * (n * settings.threshold) := by ring
  have hshort := Batch.sum_gaps_sub_pauses settings.gapThreshold hnonneg
  have hwhole := sum_div_bounds (Batch.pauses (batches settings entries))
  rw [hsum, gapThreshold_of_nonneg hthreshold, hscale] at hshort
  rw [batches, gapThreshold_of_nonneg hthreshold] at hwhole ⊢
  omega

/-- A sum of milliseconds in seconds. -/
theorem sum_map_seconds (pauses : List Int) :
    (pauses.map fun pause => ((pause / 1000000 : Int) : ℚ) / 1000).sum =
      ((pauses.map (· / 1000000)).sum : Int) / 1000 := by
  induction pauses with
  | nil => simp
  | cons pause pauses ih =>
    rw [List.map_cons, List.map_cons, List.sum_cons, List.sum_cons, ih, Int.cast_add, add_div]

end Conversion

/-- **The sleeps of a script are true to the recorded times.** Each sleep is a decimal with three
places that stands for the whole milliseconds of the pause before its batch, which are no fewer than
a positive threshold. If the kept entries are in order and none starts in a leap second, then all
sleeps together are no longer than the recorded time, and what they lose of it is at most the
threshold for each two neighbours in one batch and a millisecond for each sleep. -/
theorem convert_pacing {archive : Archive} {settings : Settings} {text : String}
    (h : convert archive settings = .ok text) :
    ∃ entries slept,
      Conversion.kept Url.Host.reader settings archive.entries = .ok entries ∧
      List.Forall₂ (Script.WritesDecimal 3) (Script.sleepArguments text) slept ∧
      slept = (Batch.pauses (Conversion.batches settings entries)).map
        (fun pause => ((pause / 1000000 : Int) : ℚ) / 1000) ∧
      (0 < settings.threshold → ∀ value ∈ slept, (settings.threshold : ℚ) ≤ 1000 * value) ∧
      ((entries.IsChain fun a b => a.started.NotAfter b.started) →
        (∀ e ∈ entries, e.started.inLeapSecond = false) →
        ∀ first ∈ entries.head?, ∀ last ∈ entries.getLast?,
          0 ≤ (Conversion.gap first last : ℚ) / 10 ^ 9 - slept.sum ∧
          (Conversion.gap first last : ℚ) / 10 ^ 9 - slept.sum ≤
            ((Batch.neighbours (Conversion.batches settings entries)).length * settings.threshold +
              slept.length) / 1000) := by
  obtain ⟨hcheck, entries, hkept, rfl⟩ := convert_eq_ok_iff.mp h
  have hthreshold := Conversion.threshold_nonneg hcheck
  have hgap := Conversion.gapThreshold_of_nonneg hthreshold
  refine ⟨entries, _, hkept, ?_, rfl, fun hpos value hvalue => ?_,
    fun horder hregular first hfirst last hlast => ?_⟩
  · rw [Conversion.sleepArguments_scriptOf, List.forall₂_map_left_iff, List.forall₂_map_right_iff,
      List.forall₂_same]
    intro pause hpause
    have hnonneg := Batch.nonneg_of_mem_pauses hpause
    have hdecimal := Script.writesDecimal_seconds (Conversion.pauseMilliseconds pause)
    rwa [← Int.cast_natCast, Conversion.pauseMilliseconds_of_nonneg hnonneg] at hdecimal
  · obtain ⟨pause, hpause, rfl⟩ := List.mem_map.mp hvalue
    rw [Conversion.batches, hgap] at hpause
    have hle := Batch.threshold_le_of_mem_pauses (by omega) hpause
    have hdiv : settings.threshold ≤ pause / 1000000 := by omega
    have hcast : (settings.threshold : ℚ) ≤ ((pause / 1000000 : Int) : ℚ) := Int.cast_le.mpr hdiv
    linarith
  · have hbounds := Conversion.sum_pauses_bounds hthreshold horder hregular hfirst hlast
    rw [Conversion.sum_map_seconds, List.length_map]
    generalize (Batch.neighbours (Conversion.batches settings entries)).length = joined,
      ((Batch.pauses (Conversion.batches settings entries)).map (· / 1000000)).sum = total,
      (Batch.pauses (Conversion.batches settings entries)).length = sleeps,
      Conversion.gap first last = elapsed at hbounds ⊢
    have hlower : (1000000 * total : ℚ) ≤ elapsed := by exact_mod_cast hbounds.1
    have hupper : (elapsed : ℚ) ≤ 1000000 * (total + joined * settings.threshold + sleeps) := by
      exact_mod_cast hbounds.2
    constructor <;> linarith

/-- An entry that starts at an instant. -/
def entryAt (started : Instant) : Entry :=
  { pageRef := none
    started
    time := 0
    request :=
      { method := "GET"
        url := ⟨"http", some ⟨"", none, .name "host.test", none⟩, "/", none, none⟩
        headers := []
        cookies := []
        post := none }
    response := ⟨200, ""⟩ }

/-- A session whose second entry joins the batch of the first one, and whose pauses are no whole
milliseconds. -/
def pacedSession : Archive :=
  { version := ""
    creator := none
    browser := none
    comment := none
    pages := []
    entries := [entryAt ⟨0, 0, 0⟩, entryAt ⟨0, 200000000, 0⟩, entryAt ⟨1, 700600000, 0⟩,
      entryAt ⟨3, 7, 3600⟩] }

theorem convert_pacing_pacedSession :
    ∃ text, convert pacedSession {} = .ok text ∧
      List.Forall₂ (Script.WritesDecimal 3) (Script.sleepArguments text) [1.5, 1.299] ∧
      (0 : ℚ) ≤ 3.000000007 - (1.5 + 1.299) ∧
        (3.000000007 : ℚ) - (1.5 + 1.299) ≤ (1 * 500 + 2) / 1000 := by
  have hhosts : ∀ e ∈ pacedSession.entries, e.host? ≠ none := by decide
  have hcheck : Settings.check {} = .ok () := rfl
  obtain ⟨text, htext⟩ := convert_of_hosts hhosts hcheck
  have hkept : Conversion.kept Url.Host.reader {} pacedSession.entries =
      .ok pacedSession.entries := rfl
  have hpauses : Batch.pauses (Conversion.batches {} pacedSession.entries) =
      [1500600000, 1299400007] := by decide
  have hjoined : (Batch.neighbours (Conversion.batches {} pacedSession.entries)).length = 1 := by
    decide
  have helapsed : Conversion.gap (entryAt ⟨0, 0, 0⟩) (entryAt ⟨3, 7, 3600⟩) = 3000000007 := by
    decide
  have horder : pacedSession.entries.IsChain fun a b => a.started.NotAfter b.started := by decide
  have hregular : ∀ e ∈ pacedSession.entries, e.started.inLeapSecond = false := by decide
  obtain ⟨entries, slept, hentries, hsleeps, hslept, -, hbounds⟩ := convert_pacing htext
  obtain rfl := Except.ok.inj (hentries.symm.trans hkept)
  have hvalues : slept = [1.5, 1.299] := by
    rw [hslept, hpauses]
    norm_num
  have h := hbounds horder hregular (entryAt ⟨0, 0, 0⟩) rfl (entryAt ⟨3, 7, 3600⟩) rfl
  rw [hvalues] at hsleeps h
  rw [helapsed, hjoined] at h
  refine ⟨text, htext, hsleeps, ?_⟩
  norm_num [defaultThreshold] at h ⊢

/-! ## Two thresholds -/

/-- **A higher threshold only puts batches together**, in whatever order the entries start and
whatever the signs of the thresholds. An entry that opens a batch under the higher threshold opens
one under the lower threshold too, after the same pause; each batch under the higher threshold is a
row of batches under the lower one; and there are no more batches and no longer pauses in all. -/
theorem split_under_higher_threshold {lower higher : Int} (h : lower ≤ higher)
    (entries : List Entry) :
    (∀ place pause, Batch.Opens (Batch.split Conversion.gap higher entries) place pause →
      Batch.Opens (Batch.split Conversion.gap lower entries) place pause) ∧
    (∃ groups, groups.flatten = Batch.split Conversion.gap lower entries ∧
      Batch.Merged groups (Batch.split Conversion.gap higher entries)) ∧
    (Batch.split Conversion.gap higher entries).length ≤
      (Batch.split Conversion.gap lower entries).length ∧
    (Batch.pauses (Batch.split Conversion.gap higher entries)).sum ≤
      (Batch.pauses (Batch.split Conversion.gap lower entries)).sum := by
  obtain ⟨groups, hflat, hmerged⟩ := Batch.exists_merged Conversion.gap h entries
  rw [← hflat]
  refine ⟨fun place pause => hmerged.opens, ⟨groups, rfl, hmerged⟩, hmerged.length_le,
    hmerged.pauses_sublist.sum_le_sum fun pause hpause => ?_⟩
  rw [hflat] at hpause
  exact Batch.nonneg_of_mem_pauses hpause

/-- Entries of which the last one starts before the one in front of it. -/
def unorderedEntries : List Entry :=
  [entryAt ⟨0, 0, 0⟩, entryAt ⟨0, 200000000, 0⟩, entryAt ⟨3, 0, 0⟩, entryAt ⟨1, 0, 0⟩]

theorem split_under_higher_threshold_unorderedEntries :
    (-1 : Int) ≤ 500000000 ∧
    Batch.Opens (Batch.split Conversion.gap 500000000 unorderedEntries) 2 (some 2800000000) ∧
    Batch.Opens (Batch.split Conversion.gap (-1) unorderedEntries) 2 (some 2800000000) ∧
    2 ≤ (Batch.split Conversion.gap (-1) unorderedEntries).length ∧
    2800000000 ≤ (Batch.pauses (Batch.split Conversion.gap (-1) unorderedEntries)).sum := by
  have hle : (-1 : Int) ≤ 500000000 := by decide
  have hopens : Batch.Opens (Batch.split Conversion.gap 500000000 unorderedEntries) 2
      (some 2800000000) := ⟨[_], _, [], rfl, rfl, rfl⟩
  have h := split_under_higher_threshold hle unorderedEntries
  exact ⟨hle, hopens, h.1 2 _ hopens, h.2.2.1, h.2.2.2⟩

end SessionReplay
