import SessionReplay.Capture.Decode
import SessionReplay.Proofs.Outcome
import SessionReplay.Proofs.Text.Blank

/-!
# Checked entries

* `Entry.Checked` — what the checks of an entry establish;
* `Entry.checked_of_ofDocument`: an entry that passes its checks is checked;
* **`Archive.checked_of_decode`**: so is every entry of a decoded session.
-/

namespace SessionReplay

/-- The text of a host is never empty. -/
theorem Url.ne_of_hostText? {u : Url} {host : String} (h : u.hostText? = some host) :
    host ≠ "" := by
  unfold Url.hostText? at h
  split at h
  · cases h
  · split at h
    · cases h
    next hne =>
      cases h
      intro heq
      exact hne (by rw [heq]; rfl)

namespace Capture

/-- **What the checks of an entry establish**: the method is there and has no white space at its
ends, the address has a host, the status is one of HTTP, and the time is a number of
milliseconds. -/
structure Entry.Checked (e : Entry) : Prop where
  method_ne : e.request.method ≠ ""
  method_start : ∀ c ∈ e.request.method.toList.head?, Text.isBlank c = false
  method_end : ∀ c ∈ e.request.method.toList.getLast?, Text.isBlank c = false
  host : ∃ host, e.host? = some host ∧ host ≠ ""
  status_le : e.response.status ≤ 999
  time_finite : e.time.isFinite = true
  time_nonneg : 0 ≤ e.time

/-! ## Single fields -/

theorem required_eq_ok_iff {α : Type} {field : EntryField} {o : Option α} {a : α} :
    required field o = .ok a ↔ o = some a := by
  cases o <;> simp [required]

theorem checkStarted_eq_ok_iff {written : String} {started : Instant} :
    checkStarted written = .ok started ↔
      Instant.Rfc3339.read (Text.trim written) = .ok started :=
  mapError_eq_ok_iff

theorem checkMethod_eq_ok_iff {written method : String} :
    checkMethod written = .ok method ↔ Text.trim written ≠ "" ∧ method = Text.trim written := by
  simp only [checkMethod, String.isEmpty_iff]
  split_ifs with hblank
  · exact iff_of_false nofun fun h => h.1 hblank
  · rw [Except.ok.injEq, eq_comm, and_iff_right hblank]

/-- The address is read before its host is looked at. -/
theorem checkUrl_eq (written : String) :
    checkUrl written = ((Url.parse (Text.trim written)).mapError (.url written) >>= fun url =>
      if url.hostText?.isSome then .ok url else .error (.noHost written)) := by
  rw [checkUrl]
  cases Url.parse (Text.trim written) <;> rfl

theorem checkUrl_eq_ok_iff {written : String} {url : Url} :
    checkUrl written = .ok url ↔
      Url.parse (Text.trim written) = .ok url ∧ url.hostText?.isSome := by
  simp only [checkUrl_eq, bind_eq_ok_iff, mapError_eq_ok_iff]
  constructor
  · rintro ⟨parsed, hparsed, h⟩
    split_ifs at h with hhost
    cases h
    exact ⟨hparsed, hhost⟩
  · rintro ⟨hparsed, hhost⟩
    exact ⟨url, hparsed, if_pos hhost⟩

theorem checkStatus_eq_ok_iff {written : Int} {status : Nat} :
    checkStatus written = .ok status ↔ (status : Int) = written ∧ status ≤ 999 := by
  rw [checkStatus, maxStatus]
  split_ifs with hrange
  · rw [Except.ok.injEq]
    omega
  · exact iff_of_false nofun fun h => hrange (by omega)

theorem cleanTime_finite (time : Option Float) : (cleanTime time).isFinite = true := by
  unfold cleanTime
  split
  · split
    next h => exact (Bool.and_eq_true_iff.mp h).1
    · decide
  · decide

theorem cleanTime_nonneg (time : Option Float) : 0 ≤ cleanTime time := by
  unfold cleanTime
  split
  · split
    next h => exact of_decide_eq_true (Bool.and_eq_true_iff.mp h).2
    · decide
  · decide

/-! ## Entries and sessions -/

/-- **An entry that passes its checks is checked.** -/
theorem Entry.checked_of_ofDocument {d : Document.Entry} {e : Entry}
    (h : Entry.ofDocument d = .ok e) : e.Checked := by
  simp only [Entry.ofDocument, bind_eq_ok_iff, mapError_eq_ok_iff, pure_eq_ok_iff,
    checkMethod_eq_ok_iff, checkUrl_eq_ok_iff, checkStatus_eq_ok_iff] at h
  obtain ⟨_, -, _, -, _, -, method, ⟨hne, rfl⟩, _, -, url, ⟨-, hhost⟩, _, -, status, ⟨-, hstatus⟩,
    rfl⟩ := h
  obtain ⟨host, hhost⟩ := Option.isSome_iff_exists.mp hhost
  exact ⟨hne, fun c hc => Text.head?_trim hc, fun c hc => Text.getLast?_trim hc,
    ⟨host, hhost, Url.ne_of_hostText? hhost⟩, hstatus, cleanTime_finite d.time,
    cleanTime_nonneg d.time⟩

theorem checked_of_checkEntries {index : Nat} {ds : List Document.Entry} {entries : List Entry}
    (h : checkEntries index ds = .ok entries) : ∀ e ∈ entries, e.Checked := by
  induction ds generalizing index entries with
  | nil =>
    cases h
    simp
  | cons d ds ih =>
    simp only [checkEntries, bind_eq_ok_iff, mapError_eq_ok_iff, pure_eq_ok_iff] at h
    obtain ⟨entry, hentry, rest, hrest, rfl⟩ := h
    rw [List.forall_mem_cons]
    exact ⟨Entry.checked_of_ofDocument hentry, ih hrest⟩

/-- **Every entry of a decoded session is checked.** -/
theorem Archive.checked_of_decode {bytes : List UInt8} {archive : Archive}
    (h : Archive.decode bytes = .ok archive) : ∀ e ∈ archive.entries, e.Checked := by
  simp only [Archive.decode, Archive.ofDocument, bind_eq_ok_iff, mapError_eq_ok_iff,
    pure_eq_ok_iff] at h
  obtain ⟨document, -, entries, hentries, rfl⟩ := h
  exact checked_of_checkEntries hentries

end Capture

end SessionReplay
