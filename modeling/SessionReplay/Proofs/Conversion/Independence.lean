import SessionReplay.Proofs.Batch.Lockstep
import SessionReplay.Proofs.Conversion.Outcome
import SessionReplay.Proofs.Text.LetterCase

/-!
# What a script does not depend on

* `Entry.SameExchange` — two entries that are replayed alike;
* `Conversion.map_step_congr`: batches in lockstep make the same steps;
* `Conversion.kept_kept`: the kept entries are kept without any lists of domains;
* **`convert_independent`**: dropped entries and fields that are not replayed leave no trace.
-/

namespace SessionReplay

open Capture (Archive Entry Page)

/-- **Two entries that are replayed alike**: their requests are the same but for the letter case of
the method, and so are their statuses if statuses are checked. -/
structure Capture.Entry.SameExchange (checked : Bool) (a b : Entry) : Prop where
  method : Text.sameLetters a.request.method b.request.method = true
  url : a.request.url.text = b.request.url.text
  headers : a.request.headers = b.request.headers
  cookies : a.request.cookies = b.request.cookies
  post : a.request.post = b.request.post
  status : checked = true → a.response.status = b.response.status

namespace Conversion

/-! ## Steps -/

theorem call_congr {checked : Bool} {a b : Entry} (h : a.SameExchange checked b) :
    call a.request = call b.request := by
  have hbody : Body.ofRequest a.request = Body.ofRequest b.request := by
    rw [Body.ofRequest, Body.ofRequest, h.post, Text.sameLetters_congr h.method]
  rw [call, call, Text.asciiUpper_of_sameLetters h.method, h.url, hbody, h.cookies, h.headers]

theorem checksFrom_congr {as bs : List Entry} (h : List.Forall₂ (Entry.SameExchange true) as bs)
    (place : Nat) : checksFrom place as = checksFrom place bs := by
  induction h generalizing place with
  | nil => rfl
  | cons hab htail ih => rw [checksFrom, checksFrom, hab.status rfl, ih]

theorem step_congr {checked : Bool} {a b : Batch Entry}
    (h : a.Matches (Entry.SameExchange checked) b) : step checked a = step checked b := by
  have hcalls : (a.items.map fun entry => call entry.request) =
      b.items.map fun entry => call entry.request := by
    rw [← List.forall₂_eq_eq_eq, List.forall₂_map_left_iff, List.forall₂_map_right_iff]
    exact h.items.imp fun x y hxy => call_congr hxy
  have hchecks : (if checked then checksFrom 0 a.items else []) =
      if checked then checksFrom 0 b.items else [] := by
    cases checked with
    | false => rfl
    | true => exact checksFrom_congr h.items 0
  rw [step, step, h.pause, hcalls, hchecks]

/-- Batches in lockstep make the same steps. -/
theorem map_step_congr {checked : Bool} {as bs : List (Batch Entry)}
    (h : List.Forall₂ (Batch.Matches (Entry.SameExchange checked)) as bs) :
    as.map (step checked) = bs.map (step checked) := by
  rw [← List.forall₂_eq_eq_eq, List.forall₂_map_left_iff, List.forall₂_map_right_iff]
  exact h.imp fun x y hxy => step_congr hxy

/-! ## Notes -/

/-- What is noted about a page. -/
def pageNote (page : Page) : String × String := (page.id, page.title)

/-- The note itself. -/
def pageLine (note : String × String) : String :=
  "Page: " ++ Script.Comment.flat note.1 ++ " - " ++ Script.Comment.flat note.2

theorem map_pageLine (pages : List Page) :
    (pages.map fun page =>
      "Page: " ++ Script.Comment.flat page.id ++ " - " ++ Script.Comment.flat page.title) =
      (pages.map pageNote).map pageLine := by
  rw [List.map_map]
  rfl

theorem notes_congr {a b : Archive} (hversion : a.version = b.version)
    (hcreator : a.creator = b.creator) (hbrowser : a.browser = b.browser)
    (hcomment : a.comment = b.comment) (hpages : a.pages.map pageNote = b.pages.map pageNote) :
    notes a = notes b := by
  rw [notes, notes, hversion, hcreator, hbrowser, hcomment, map_pageLine, map_pageLine, hpages]

/-! ## Kept entries -/

/-- Without lists of domains every host is allowed. -/
theorem allows_ofLists_nil (read : HostReader) (host : String) :
    (DomainFilter.ofLists read [] []).allows read host = true := rfl

/-- **The kept entries are kept** without any lists of domains. -/
theorem kept_kept {read : HostReader} {settings : Settings} {entries kept' : List Entry}
    (h : kept read settings entries = .ok kept') :
    kept read { settings with only := [], skip := [] } kept' = .ok kept' := by
  rw [kept_eq_ok_iff] at h ⊢
  obtain ⟨hhosts, rfl⟩ := h
  refine ⟨fun e he => hhosts e (List.mem_of_mem_filter he), List.filter_eq_self.mpr fun e he => ?_⟩
  obtain ⟨host, hhost⟩ := Option.ne_none_iff_exists'.mp (hhosts e (List.mem_of_mem_filter he))
  rw [passes, hhost, Option.any_some, allows_ofLists_nil]

end Conversion

/-- **Dropped entries and fields that are not replayed leave no trace.** A session makes the same
script as its kept entries alone, without any lists of domains; and two sessions with the same notes
make the same script if their kept entries are replayed alike and follow each other by the same
gaps. -/
theorem convert_independent :
    (∀ (archive : Archive) (settings : Settings) (text : String),
      convert archive settings = .ok text →
        ∃ entries, Conversion.kept Url.Host.reader settings archive.entries = .ok entries ∧
          convert { archive with entries := entries } { settings with only := [], skip := [] } =
            .ok text) ∧
    ∀ (a b : Archive) (settings : Settings) (s t : String) (keptA keptB : List Entry),
      convert a settings = .ok s → convert b settings = .ok t →
      Conversion.kept Url.Host.reader settings a.entries = .ok keptA →
      Conversion.kept Url.Host.reader settings b.entries = .ok keptB →
      a.version = b.version → a.creator = b.creator → a.browser = b.browser →
      a.comment = b.comment →
      a.pages.map Conversion.pageNote = b.pages.map Conversion.pageNote →
      List.Forall₂ (Entry.SameExchange settings.checks) keptA keptB →
      Batch.gaps Conversion.gap keptA = Batch.gaps Conversion.gap keptB → s = t := by
  constructor
  · intro archive settings text h
    obtain ⟨hcheck, entries, hkept, htext⟩ := convert_eq_ok_iff.mp h
    exact ⟨entries, hkept,
      convert_eq_ok_iff.mpr ⟨hcheck, entries, Conversion.kept_kept hkept, htext⟩⟩
  · intro a b settings s t keptA keptB ha hb hkeptA hkeptB hversion hcreator hbrowser hcomment
      hpages hsame hgaps
    obtain ⟨-, entriesA, hA, rfl⟩ := convert_eq_ok_iff.mp ha
    obtain ⟨-, entriesB, hB, rfl⟩ := convert_eq_ok_iff.mp hb
    obtain rfl := Except.ok.inj (hA.symm.trans hkeptA)
    obtain rfl := Except.ok.inj (hB.symm.trans hkeptB)
    rw [Conversion.scriptOf, Conversion.scriptOf, Conversion.batches, Conversion.batches,
      Conversion.notes_congr hversion hcreator hbrowser hcomment hpages,
      Conversion.map_step_congr (Batch.split_lockstep hsame hgaps)]

/-- A visit of a host. -/
def visit (method host : String) (started : Instant) (status : Nat) : Entry :=
  { pageRef := none
    started
    time := 0
    request :=
      { method
        url := ⟨"http", some ⟨"", none, .name host, none⟩, "/", none, none⟩
        headers := []
        cookies := []
        post := none }
    response := ⟨status, ""⟩ }

/-- Two visits of a shop. -/
def shopVisits : List Entry :=
  [visit "GET" "shop.test" ⟨0, 0, 0⟩ 200, visit "POST" "shop.test" ⟨2, 0, 0⟩ 302]

/-- A session of these two visits, with one of another host between them. -/
def morningSession : Archive :=
  { version := "1.2"
    creator := none
    browser := none
    comment := none
    pages := [⟨"p", "Home", none⟩]
    entries := [visit "GET" "shop.test" ⟨0, 0, 0⟩ 200, visit "GET" "ads.test" ⟨1, 0, 0⟩ 200,
      visit "POST" "shop.test" ⟨2, 0, 0⟩ 302] }

/-- The two visits on another day, elsewhere, and with other answers. -/
def eveningSession : Archive :=
  { morningSession with
    pages := [⟨"p", "Home", some ⟨86400, 0, 3600⟩⟩]
    entries := [visit "get" "shop.test" ⟨86400, 0, 3600⟩ 404,
      visit "post" "shop.test" ⟨86402, 0, -3600⟩ 0] }

/-- The visits that are kept where advertisements are skipped. -/
theorem kept_sessions :
    Conversion.kept Url.Host.reader { skip := ["ads.test"] } morningSession.entries =
      .ok shopVisits ∧
    Conversion.kept Url.Host.reader { skip := ["ads.test"] } eveningSession.entries =
      .ok eveningSession.entries := by
  let allowed := (DomainFilter.ofLists Url.Host.reader [] ["ads.test"]).allows Url.Host.reader
  have hshop (method : String) (started : Instant) (status : Nat) :
      Conversion.passes allowed (visit method "shop.test" started status) = true := by
    change allowed "shop.test" = true
    decide +kernel
  have hads (method : String) (started : Instant) (status : Nat) :
      ¬ Conversion.passes allowed (visit method "ads.test" started status) = true := by
    change ¬ allowed "ads.test" = true
    decide +kernel
  constructor
  · refine Conversion.kept_eq_ok_iff.mpr ⟨by decide, ?_⟩
    exact (List.filter_cons_of_pos (hshop _ _ _)).trans (congrArg _
      ((List.filter_cons_of_neg (hads _ _ _)).trans (List.filter_cons_of_pos (hshop _ _ _))))
  · refine Conversion.kept_eq_ok_iff.mpr ⟨by decide, List.filter_eq_self.mpr ?_⟩
    exact List.forall_mem_cons.mpr ⟨hshop _ _ _, List.forall_mem_singleton.mpr (hshop _ _ _)⟩

theorem sameExchange_visit {method method' host : String} {started started' : Instant}
    {status status' : Nat} (h : Text.sameLetters method method' = true) :
    Capture.Entry.SameExchange false (visit method host started status)
      (visit method' host started' status') :=
  ⟨h, rfl, rfl, rfl, rfl, nofun⟩

theorem sameExchange_sessions :
    List.Forall₂ (Capture.Entry.SameExchange false) shopVisits eveningSession.entries :=
  .cons (sameExchange_visit (Text.sameLetters_iff_toList.mpr (by decide)))
    (.cons (sameExchange_visit (Text.sameLetters_iff_toList.mpr (by decide))) .nil)

/-- Both sessions have one script, and it is that of the kept visits alone. -/
theorem convert_independent_sessions :
    let settings : Settings := { skip := ["ads.test"] }
    ∃ text, convert morningSession settings = .ok text ∧
      convert eveningSession settings = .ok text ∧
      convert { morningSession with entries := shopVisits } {} = .ok text := by
  intro settings
  obtain ⟨hmorning, hevening⟩ := kept_sessions
  have hgaps : Batch.gaps Conversion.gap shopVisits =
      Batch.gaps Conversion.gap eveningSession.entries := by decide
  have hmorning' : ∃ text, convert morningSession settings = .ok text :=
    convert_of_hosts (by decide) rfl
  have hevening' : ∃ text, convert eveningSession settings = .ok text :=
    convert_of_hosts (by decide) rfl
  obtain ⟨s, hs⟩ := hmorning'
  obtain ⟨t, ht⟩ := hevening'
  obtain ⟨entries, hkept, halone⟩ := convert_independent.1 morningSession settings s hs
  obtain rfl := Except.ok.inj (hmorning.symm.trans hkept)
  have heq : s = t := convert_independent.2 morningSession eveningSession settings s t _ _ hs ht
    hmorning hevening rfl rfl rfl rfl rfl sameExchange_sessions hgaps
  exact ⟨s, hs, heq ▸ ht, halone⟩

end SessionReplay
