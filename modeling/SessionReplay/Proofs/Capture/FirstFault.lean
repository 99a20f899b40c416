import Mathlib.Data.List.Forall2
import SessionReplay.Proofs.Capture.Checked

/-!
# The first fault of a document

* `Check`, `Check.all` — the checks of an entry, in the order in which they are made;
* `Check.Fails` — a check fails, and the fault that it reports;
* `Document.Entry.FirstFault`, `Document.Entry.Sound` — the first check that fails, and no one
  fails;
* `Entry.BuiltFrom`, `Page.BuiltFrom` — what becomes of an entry and of a page;
* `Entry.ofDocument_eq_error_iff`, `checkEntries_eq_error_iff`: which fault is reported;
* **`Archive.decode_first_fault`**: the first fault of a document is reported, and nothing else.
-/

namespace SessionReplay

namespace Capture

/-! ## Checks -/

/-- A check of an entry. -/
inductive Check where
  | startedThere
  | startedReadable
  | methodThere
  | methodNotBlank
  | urlThere
  | urlReadable
  | urlHasHost
  | statusThere
  | statusInRange
  deriving DecidableEq, Repr

namespace Check

/-- All checks, in the order in which they are made. -/
def all : List Check :=
  [startedThere, startedReadable, methodThere, methodNotBlank, urlThere, urlReadable, urlHasHost,
    statusThere, statusInRange]

/-- The place of the field that is checked. -/
def path : Check → String
  | startedThere | startedReadable => "startedDateTime"
  | methodThere | methodNotBlank => "request.method"
  | urlThere | urlReadable | urlHasHost => "request.url"
  | statusThere | statusInRange => "response.status"

/-- An entry fails a check, which reports a fault. -/
def Fails (d : Document.Entry) (fault : EntryFault) : Check → Prop
  | startedThere => d.started = none ∧ fault = .missing .started
  | startedReadable => ∃ written cause, d.started = some written ∧
    Instant.Rfc3339.read (Text.trim written) = .error cause ∧
      fault = .invalid (.instant written cause)
  | methodThere => d.request.method = none ∧ fault = .missing .method
  | methodNotBlank => ∃ written, d.request.method = some written ∧ Text.trim written = "" ∧
    fault = .invalid .emptyMethod
  | urlThere => d.request.url = none ∧ fault = .missing .url
  | urlReadable => ∃ written cause, d.request.url = some written ∧
    Url.parse (Text.trim written) = .error cause ∧ fault = .invalid (.url written cause)
  | urlHasHost => ∃ written url, d.request.url = some written ∧
    Url.parse (Text.trim written) = .ok url ∧ url.hostText? = none ∧
      fault = .invalid (.noHost written)
  | statusThere => d.response.status = none ∧ fault = .missing .status
  | statusInRange => ∃ written, d.response.status = some written ∧
    ¬(0 ≤ written ∧ written ≤ 999) ∧ fault = .invalid (.status written)

end Check

/-- The field that a fault is about. -/
def EntryFault.field : EntryFault → EntryField
  | .missing field => field
  | .invalid fault => fault.field

/-- A check fails, and none of those before it does. -/
def Document.Entry.FirstFault (d : Document.Entry) (checks : List Check) (check : Check)
    (fault : EntryFault) : Prop :=
  ∃ before after, checks = before ++ check :: after ∧ check.Fails d fault ∧
    ∀ earlier ∈ before, ∀ f, ¬earlier.Fails d f

/-- An entry passes all checks. -/
def Document.Entry.Sound (d : Document.Entry) : Prop :=
  ∀ (check : Check) (fault : EntryFault), ¬check.Fails d fault

variable {d : Document.Entry} {fault : EntryFault} {check : Check} {checks : List Check}

/-- A fault is about the field that is checked. -/
theorem path_eq_of_fails (h : check.Fails d fault) : fault.field.path = check.path := by
  cases check with
  | startedThere | methodThere | urlThere | statusThere =>
    obtain ⟨-, rfl⟩ := h
    rfl
  | methodNotBlank | statusInRange =>
    obtain ⟨_, -, -, rfl⟩ := h
    rfl
  | startedReadable | urlReadable =>
    obtain ⟨_, _, -, -, rfl⟩ := h
    rfl
  | urlHasHost =>
    obtain ⟨_, _, -, -, -, rfl⟩ := h
    rfl

theorem path_eq_of_firstFault (h : d.FirstFault checks check fault) :
    fault.field.path = check.path := by
  obtain ⟨_, _, -, hfails, -⟩ := h
  exact path_eq_of_fails hfails

theorem firstFault_nil : ¬d.FirstFault [] check fault := by
  rintro ⟨before, after, h, -⟩
  cases before <;> cases h

theorem firstFault_cons {first : Check} :
    d.FirstFault (first :: checks) check fault ↔
      check = first ∧ first.Fails d fault ∨
        (∀ f, ¬first.Fails d f) ∧ d.FirstFault checks check fault := by
  constructor
  · rintro ⟨_ | ⟨c, before⟩, after, h, hfails, hbefore⟩
    · obtain ⟨rfl, rfl⟩ := List.cons.inj h
      exact .inl ⟨rfl, hfails⟩
    · obtain ⟨rfl, rfl⟩ := List.cons.inj h
      rw [List.forall_mem_cons] at hbefore
      exact .inr ⟨hbefore.1, before, after, rfl, hfails, hbefore.2⟩
  · rintro (⟨rfl, hfails⟩ | ⟨hfirst, before, after, rfl, hfails, hbefore⟩)
    · exact ⟨[], checks, rfl, hfails, nofun⟩
    · exact ⟨first :: before, after, rfl, hfails, List.forall_mem_cons.mpr ⟨hfirst, hbefore⟩⟩

theorem exists_firstFault_iff :
    (∃ check fault, d.FirstFault checks check fault) ↔
      ∃ check ∈ checks, ∃ fault, check.Fails d fault := by
  induction checks with
  | nil => simp [firstFault_nil]
  | cons first checks ih =>
    simp only [firstFault_cons, List.exists_mem_cons_iff, ← ih]
    by_cases hfirst : ∃ f, first.Fails d f
    · obtain ⟨f, hf⟩ := hfirst
      exact iff_of_true ⟨first, f, .inl ⟨rfl, hf⟩⟩ (.inl ⟨f, hf⟩)
    · rw [not_exists] at hfirst
      simp [hfirst]

/-! ## Steps of the checks -/

theorem required_eq_error_iff {α : Type} {field : EntryField} {o : Option α} :
    required field o = .error fault ↔ o = none ∧ fault = .missing field := by
  cases o <;> simp [required, eq_comm]

/-- A step that fails if a check does: the first fault is that of the step, or it comes later. -/
theorem firstFault_bind {α β : Type} {x : Except EntryFault α} {f : α → Except EntryFault β}
    {first : Check} (hfirst : ∀ fault, x = .error fault ↔ first.Fails d fault)
    (hlater : ∀ a, x = .ok a → (f a = .error fault ↔ ∃ check, d.FirstFault checks check fault)) :
    x >>= f = .error fault ↔ ∃ check, d.FirstFault (first :: checks) check fault := by
  simp only [firstFault_cons, ← hfirst]
  cases x with
  | error cause =>
    have hbind : (Except.error cause >>= f) = .error cause := rfl
    simp [hbind]
  | ok a =>
    have hbind : (Except.ok a >>= f) = f a := rfl
    simp [hbind, hlater a rfl]

/-! ## Entries -/

theorem started_eq_error_iff {written : String} (h : d.started = some written) :
    (checkStarted written).mapError .invalid = .error fault ↔
      Check.startedReadable.Fails d fault := by
  simp only [checkStarted, instant, mapError_eq_error_iff, Check.Fails, h, Option.some.injEq]
  constructor
  · rintro ⟨_, ⟨cause, hread, rfl⟩, rfl⟩
    exact ⟨written, cause, rfl, hread, rfl⟩
  · rintro ⟨_, cause, rfl, hread, rfl⟩
    exact ⟨_, ⟨cause, hread, rfl⟩, rfl⟩

theorem method_eq_error_iff {written : String} (h : d.request.method = some written) :
    (checkMethod written).mapError .invalid = .error fault ↔
      Check.methodNotBlank.Fails d fault := by
  simp only [checkMethod, mapError_eq_error_iff, Check.Fails, h, Option.some.injEq,
    String.isEmpty_iff]
  constructor
  · rintro ⟨_, hcheck, rfl⟩
    split_ifs at hcheck with hblank
    cases hcheck
    exact ⟨written, rfl, hblank, rfl⟩
  · rintro ⟨_, rfl, hblank, rfl⟩
    exact ⟨.emptyMethod, if_pos hblank, rfl⟩

theorem url_eq_error_iff {written : String} (h : d.request.url = some written) :
    ((Url.parse (Text.trim written)).mapError (.url written)).mapError .invalid = .error fault ↔
      Check.urlReadable.Fails d fault := by
  simp only [mapError_eq_error_iff, Check.Fails, h, Option.some.injEq]
  constructor
  · rintro ⟨_, ⟨cause, hread, rfl⟩, rfl⟩
    exact ⟨written, cause, rfl, hread, rfl⟩
  · rintro ⟨_, cause, rfl, hread, rfl⟩
    exact ⟨_, ⟨cause, hread, rfl⟩, rfl⟩

theorem host_eq_error_iff {written : String} {url : Url} (h : d.request.url = some written)
    (hurl : Url.parse (Text.trim written) = .ok url) :
    (if url.hostText?.isSome then Except.ok url else .error (.noHost written)).mapError .invalid =
      .error fault ↔ Check.urlHasHost.Fails d fault := by
  simp only [mapError_eq_error_iff, Check.Fails, h, Option.some.injEq]
  constructor
  · rintro ⟨_, hcheck, rfl⟩
    split_ifs at hcheck with hhost
    cases hcheck
    exact ⟨written, url, rfl, hurl, Option.not_isSome_iff_eq_none.mp hhost, rfl⟩
  · rintro ⟨_, _, rfl, hread, hhost, rfl⟩
    obtain rfl := Except.ok.inj (hurl.symm.trans hread)
    exact ⟨.noHost written, if_neg (Option.not_isSome_iff_eq_none.mpr hhost), rfl⟩

theorem status_eq_error_iff {written : Int} (h : d.response.status = some written) :
    (checkStatus written).mapError .invalid = .error fault ↔
      Check.statusInRange.Fails d fault := by
  simp only [checkStatus, mapError_eq_error_iff, Check.Fails, h, Option.some.injEq]
  constructor
  · rintro ⟨_, hcheck, rfl⟩
    split_ifs at hcheck with hrange
    cases hcheck
    exact ⟨written, rfl, hrange, rfl⟩
  · rintro ⟨_, rfl, hrange, rfl⟩
    exact ⟨.status written, if_neg hrange, rfl⟩

/-- **An entry is rejected for the first check that it fails.** -/
theorem Entry.ofDocument_eq_error_iff :
    Entry.ofDocument d = .error fault ↔ ∃ check, d.FirstFault Check.all check fault := by
  rw [Entry.ofDocument]
  refine firstFault_bind (fun _ => required_eq_error_iff) fun started hstarted => ?_
  rw [required_eq_ok_iff] at hstarted
  refine firstFault_bind (fun _ => started_eq_error_iff hstarted) fun _ _ => ?_
  refine firstFault_bind (fun _ => required_eq_error_iff) fun method hmethod => ?_
  rw [required_eq_ok_iff] at hmethod
  refine firstFault_bind (fun _ => method_eq_error_iff hmethod) fun _ _ => ?_
  refine firstFault_bind (fun _ => required_eq_error_iff) fun written hwritten => ?_
  rw [required_eq_ok_iff] at hwritten
  rw [checkUrl_eq, mapError_bind, bind_assoc]
  refine firstFault_bind (fun _ => url_eq_error_iff hwritten) fun url hurl => ?_
  rw [mapError_eq_ok_iff, mapError_eq_ok_iff] at hurl
  refine firstFault_bind (fun _ => host_eq_error_iff hwritten hurl) fun _ _ => ?_
  refine firstFault_bind (fun _ => required_eq_error_iff) fun status hstatus => ?_
  rw [required_eq_ok_iff] at hstatus
  refine firstFault_bind (fun _ => status_eq_error_iff hstatus) fun _ _ => ?_
  refine iff_of_false pure_ne_error ?_
  rintro ⟨_, h⟩
  exact firstFault_nil h

theorem Entry.exists_ofDocument_iff : (∃ e, Entry.ofDocument d = .ok e) ↔ d.Sound := by
  have herror : (∃ fault, Entry.ofDocument d = .error fault) ↔
      ∃ check ∈ Check.all, ∃ fault, check.Fails d fault := by
    rw [← exists_firstFault_iff, exists_comm]
    exact exists_congr fun _ => Entry.ofDocument_eq_error_iff
  have hall (check : Check) : check ∈ Check.all := by cases check <;> decide
  cases h : Entry.ofDocument d with
  | error fault =>
    obtain ⟨check, -, f, hf⟩ := herror.mp ⟨fault, h⟩
    refine iff_of_false ?_ fun hsound => hsound check f hf
    rintro ⟨_, hok⟩
    cases hok
  | ok e =>
    refine iff_of_true ⟨e, rfl⟩ fun check f hf => ?_
    obtain ⟨fault, hfault⟩ := herror.mpr ⟨check, hall check, f, hf⟩
    rw [h] at hfault
    cases hfault

/-- **What becomes of an entry that passes its checks.** Texts are kept as they are, except for
white space around the method. -/
structure Entry.BuiltFrom (d : Document.Entry) (e : Entry) : Prop where
  pageRef : e.pageRef = d.pageRef.filter (· ≠ "")
  started : ∃ written, d.started = some written ∧
    Instant.Rfc3339.read (Text.trim written) = .ok e.started
  time : e.time = cleanTime d.time
  method : ∃ written, d.request.method = some written ∧ e.request.method = Text.trim written
  url : ∃ written, d.request.url = some written ∧
    Url.parse (Text.trim written) = .ok e.request.url
  headers : e.request.headers = d.request.headers
  cookies : e.request.cookies = d.request.cookies
  post : e.request.post = d.request.post.map fun body =>
    ⟨body.mime, body.text, BodyEncoding.ofDeclared body.encoding, body.params⟩
  status : ∃ written, d.response.status = some written ∧ (e.response.status : Int) = written
  statusText : e.response.statusText = d.response.statusText

/-- **What becomes of a page.** It has a start if one is written that can be read. -/
structure Page.BuiltFrom (d : Document.Page) (page : Page) : Prop where
  id : page.id = d.id
  title : page.title = d.title
  started : ∀ instant, page.started = some instant ↔ ∃ written, d.started = some written ∧
    Instant.Rfc3339.read (Text.trim written) = .ok instant

theorem Entry.builtFrom_of_ofDocument {e : Entry} (h : Entry.ofDocument d = .ok e) :
    Entry.BuiltFrom d e := by
  simp only [Entry.ofDocument, bind_eq_ok_iff, mapError_eq_ok_iff, pure_eq_ok_iff,
    required_eq_ok_iff, checkStarted_eq_ok_iff, checkMethod_eq_ok_iff, checkUrl_eq_ok_iff,
    checkStatus_eq_ok_iff] at h
  obtain ⟨started, hstarted, _, hinstant, method, hmethod, _, ⟨-, rfl⟩, url, hurl, _, ⟨hparse, -⟩,
    status, hstatus, _, ⟨hcast, -⟩, rfl⟩ := h
  refine ⟨?_, ⟨started, hstarted, hinstant⟩, rfl, ⟨method, hmethod, rfl⟩, ⟨url, hurl, hparse⟩, rfl,
    rfl, rfl, ⟨status, hstatus, hcast⟩, rfl⟩
  cases d.pageRef <;> simp [Option.filter]

theorem Page.builtFrom_ofDocument (d : Document.Page) : Page.BuiltFrom d (Page.ofDocument d) := by
  refine ⟨rfl, rfl, fun started => ?_⟩
  simp only [Page.ofDocument, instant, Option.bind_eq_some_iff, toOption_eq_some_iff]

/-! ## Sessions -/

variable {ds : List Document.Entry} {index : Nat}

/-- A list passes a check if there is a list of what its elements give. -/
theorem exists_forall₂_iff {α β : Type} {r : α → β → Prop} {l : List α} :
    (∃ m, List.Forall₂ r l m) ↔ ∀ a ∈ l, ∃ b, r a b := by
  induction l with
  | nil => simp
  | cons a l ih =>
    rw [List.forall_mem_cons, ← ih]
    constructor
    · rintro ⟨_, _ | ⟨hb, hm⟩⟩
      exact ⟨⟨_, hb⟩, _, hm⟩
    · rintro ⟨⟨b, hb⟩, m, hm⟩
      exact ⟨b :: m, .cons hb hm⟩

theorem checkEntries_eq_ok_iff {entries : List Entry} :
    checkEntries index ds = .ok entries ↔
      List.Forall₂ (fun d e => Entry.ofDocument d = .ok e) ds entries := by
  induction ds generalizing index entries with
  | nil => rw [List.forall₂_nil_left_iff, checkEntries, Except.ok.injEq, eq_comm]
  | cons d ds ih =>
    simp only [checkEntries, bind_eq_ok_iff, mapError_eq_ok_iff, pure_eq_ok_iff, ih,
      List.forall₂_cons_left_iff]
    constructor
    · rintro ⟨e, he, rest, hrest, rfl⟩
      exact ⟨e, rest, he, hrest, rfl⟩
    · rintro ⟨e, rest, he, hrest, rfl⟩
      exact ⟨e, he, rest, hrest, rfl⟩

/-- **A list of entries is rejected for the first one that is.** -/
theorem checkEntries_eq_error_iff {error : DecodeError} :
    checkEntries index ds = .error error ↔ ∃ before d after fault, ds = before ++ d :: after ∧
      (∀ b ∈ before, ∃ e, Entry.ofDocument b = .ok e) ∧ Entry.ofDocument d = .error fault ∧
        error = .entry (index + before.length) fault := by
  induction ds generalizing index with
  | nil =>
    refine iff_of_false nofun ?_
    rintro ⟨_ | ⟨_, _⟩, _, _, _, h, -⟩ <;> cases h
  | cons d ds ih =>
    simp only [checkEntries, bind_eq_error_iff, mapError_eq_error_iff, mapError_eq_ok_iff, ih]
    constructor
    · rintro (⟨fault, hd, rfl⟩ | ⟨e, he, ⟨before, b, after, fault, rfl, hbefore, hb, rfl⟩ | h⟩)
      · exact ⟨[], d, ds, fault, rfl, List.forall_mem_nil _, hd, rfl⟩
      · have hsound := List.forall_mem_cons.mpr ⟨⟨e, he⟩, hbefore⟩
        refine ⟨d :: before, b, after, fault, rfl, hsound, hb, ?_⟩
        rw [List.length_cons, Nat.add_assoc, Nat.add_comm 1]
      · obtain ⟨_, -, h⟩ := h
        cases h
    · rintro ⟨_ | ⟨b, before⟩, c, after, fault, h, hbefore, hc, rfl⟩
      · obtain ⟨rfl, rfl⟩ := List.cons.inj h
        exact .inl ⟨fault, hc, rfl⟩
      · obtain ⟨rfl, rfl⟩ := List.cons.inj h
        obtain ⟨⟨e, he⟩, hbefore⟩ := List.forall_mem_cons.mp hbefore
        refine .inr ⟨e, he, .inl ⟨before, c, after, fault, rfl, hbefore, hc, ?_⟩⟩
        rw [List.length_cons, Nat.add_assoc, Nat.add_comm 1]

end Capture

/-! ## Reads -/

namespace Disk

/-- The bytes that a read gives. -/
def Read.bytes : Read → List UInt8
  | .piece bytes => bytes
  | .interrupted | .failed _ => []

/-- After this read more is to come: it gives some bytes, or it is interrupted. -/
def Read.GoesOn : Read → Prop
  | .piece bytes => bytes ≠ []
  | .interrupted => True
  | .failed _ => False

theorem Stream.ofReads_append {reads : List Read} (h : ∀ read ∈ reads, read.GoesOn)
    (rest : List Read) :
    (ofReads (reads ++ rest)).failure = (ofReads rest).failure ∧
      (ofReads (reads ++ rest)).pieces.flatten =
        reads.flatMap Read.bytes ++ (ofReads rest).pieces.flatten := by
  induction reads with
  | nil => exact ⟨rfl, rfl⟩
  | cons read reads ih =>
    obtain ⟨hread, hreads⟩ := List.forall_mem_cons.mp h
    obtain ⟨hfailure, hpieces⟩ := ih hreads
    cases read with
    | piece bytes =>
      have hsome : ¬bytes.isEmpty := fun hempty => hread (List.isEmpty_iff.mp hempty)
      simp only [List.cons_append, ofReads, if_neg hsome, List.flatten_cons, List.flatMap_cons,
        Read.bytes, List.append_assoc, hfailure, hpieces, and_self]
    | interrupted => exact ⟨hfailure, hpieces⟩
    | failed fault => cases hread

end Disk

namespace Capture

theorem Archive.decodeStream_of_end {reads : List Disk.Read} (h : ∀ read ∈ reads, read.GoesOn)
    (rest : List Disk.Read) :
    decodeStream (.ofReads (reads ++ .piece [] :: rest)) =
      decode (reads.flatMap Disk.Read.bytes) := by
  obtain ⟨hfailure, hpieces⟩ := Disk.Stream.ofReads_append h (.piece [] :: rest)
  have hend : Disk.Stream.ofReads (.piece [] :: rest) = ⟨[], none⟩ := rfl
  rw [hend] at hfailure hpieces
  rw [decodeStream, hfailure, hpieces, List.flatten_nil, List.append_nil]

theorem Archive.decodeStream_of_failed {reads : List Disk.Read} (h : ∀ read ∈ reads, read.GoesOn)
    (fault : Disk.Fault) (rest : List Disk.Read) :
    decodeStream (.ofReads (reads ++ .failed fault :: rest)) = .error (.stream fault) := by
  obtain ⟨hfailure, -⟩ := Disk.Stream.ofReads_append h (.failed fault :: rest)
  have hend : (Disk.Stream.ofReads (.failed fault :: rest)).failure = some fault := rfl
  rw [decodeStream, hfailure, hend]

/-! ## Documents -/

theorem Archive.decode_of_read {bytes : List UInt8} {document : Document}
    (h : Document.read bytes = .ok document) :
    decode bytes = Archive.ofDocument document := by
  rw [decode, h]
  rfl

variable {document : Document}

theorem Archive.ofDocument_eq_error_iff {error : DecodeError} :
    Archive.ofDocument document = .error error ↔
      ∃ before d after check fault, document.entries = before ++ d :: after ∧
        (∀ b ∈ before, b.Sound) ∧ d.FirstFault Check.all check fault ∧
          fault.field.path = check.path ∧ error = .entry before.length fault := by
  simp only [Archive.ofDocument, bind_eq_error_iff, pure_ne_error, and_false, exists_false,
    or_false, checkEntries_eq_error_iff, Entry.exists_ofDocument_iff,
    Entry.ofDocument_eq_error_iff, Nat.zero_add]
  constructor
  · rintro ⟨before, d, after, fault, hsplit, hbefore, ⟨check, hfirst⟩, herror⟩
    exact ⟨before, d, after, check, fault, hsplit, hbefore, hfirst, path_eq_of_firstFault hfirst,
      herror⟩
  · rintro ⟨before, d, after, check, fault, hsplit, hbefore, hfirst, -, herror⟩
    exact ⟨before, d, after, fault, hsplit, hbefore, ⟨check, hfirst⟩, herror⟩

theorem Archive.exists_ofDocument_iff :
    (∃ archive, Archive.ofDocument document = .ok archive) ↔
      ∀ d ∈ document.entries, d.Sound := by
  simp only [Archive.ofDocument, bind_eq_ok_iff, pure_eq_ok_iff, checkEntries_eq_ok_iff,
    ← Entry.exists_ofDocument_iff]
  rw [← exists_forall₂_iff]
  constructor
  · rintro ⟨_, entries, hentries, -⟩
    exact ⟨entries, hentries⟩
  · rintro ⟨entries, hentries⟩
    exact ⟨_, entries, hentries, rfl⟩

theorem Archive.builtFrom_of_ofDocument {archive : Archive}
    (h : Archive.ofDocument document = .ok archive) :
    List.Forall₂ Entry.BuiltFrom document.entries archive.entries ∧
      List.Forall₂ Page.BuiltFrom (document.pages.getD []) archive.pages := by
  simp only [Archive.ofDocument, bind_eq_ok_iff, pure_eq_ok_iff, checkEntries_eq_ok_iff] at h
  obtain ⟨entries, hentries, rfl⟩ := h
  refine ⟨hentries.imp fun _ _ => Entry.builtFrom_of_ofDocument, ?_⟩
  rw [List.forall₂_map_right_iff, List.forall₂_same]
  exact fun page _ => Page.builtFrom_ofDocument page

/-- **The first fault of a document is reported, and nothing else.** Bytes that are no document are
rejected for that. A document is rejected if an entry fails a check; then the first such entry
counts, and of its checks the first one that fails. Otherwise every entry and every page of the
session is built from the one in its place. Whether the bytes come at once or in pieces, with
interruptions between them, does not matter, but a fault of the file does. -/
theorem Archive.decode_first_fault (bytes : List UInt8) :
    (∀ fault, Document.read bytes = .error fault → decode bytes = .error (.document fault)) ∧
    (∀ document, Document.read bytes = .ok document →
      ((∃ archive, decode bytes = .ok archive) ↔ ∀ d ∈ document.entries, d.Sound) ∧
      (∀ error, decode bytes = .error error ↔
        ∃ before d after check fault, document.entries = before ++ d :: after ∧
          (∀ b ∈ before, b.Sound) ∧ d.FirstFault Check.all check fault ∧
            fault.field.path = check.path ∧ error = .entry before.length fault) ∧
      ∀ archive, decode bytes = .ok archive →
        List.Forall₂ Entry.BuiltFrom document.entries archive.entries ∧
          List.Forall₂ Page.BuiltFrom (document.pages.getD []) archive.pages) ∧
    ∀ reads : List Disk.Read, (∀ read ∈ reads, read.GoesOn) → ∀ rest,
      (reads.flatMap Disk.Read.bytes = bytes →
        decodeStream (.ofReads (reads ++ .piece [] :: rest)) = decode bytes) ∧
      ∀ fault, decodeStream (.ofReads (reads ++ .failed fault :: rest)) =
        .error (.stream fault) := by
  refine ⟨fun fault h => by rw [decode, h]; rfl, fun document h => ?_, fun reads hreads rest =>
    ⟨fun hbytes => ?_, fun fault => decodeStream_of_failed hreads fault rest⟩⟩
  · rw [decode_of_read h]
    exact ⟨exists_ofDocument_iff, fun _ => ofDocument_eq_error_iff,
      fun _ => builtFrom_of_ofDocument⟩
  · rw [decodeStream_of_end hreads, hbytes]

/-- The bytes of a session whose first entry is sound. The second one has a blank method, an address
that cannot be read and no status; the third one has nothing. -/
def faultyDocument : List UInt8 :=
  Text.bytes <|
    "\x7b\"log\": \x7b\"entries\": [\x7b\"startedDateTime\": \"2020-01-01T00:00:00Z\"," ++
      "\"request\": \x7b\"method\": \"get\", \"url\": \"http://host.test/\"\x7d," ++
      "\"response\": \x7b\"status\": 200\x7d\x7d," ++
      "\x7b\"startedDateTime\": \"2020-01-01T00:00:00Z\"," ++
      "\"request\": \x7b\"method\": \" \", \"url\": \"nowhere\"\x7d," ++
      "\"response\": \x7b\"status\": null\x7d\x7d," ++
      "\x7b\"request\": \x7b\x7d, \"response\": \x7b\x7d\x7d]\x7d\x7d"

theorem decode_first_fault_faultyDocument :
    ∃ document before d after check, Document.read faultyDocument = .ok document ∧
      document.entries = before ++ d :: after ∧ before.length = 1 ∧ (∀ b ∈ before, b.Sound) ∧
      d.FirstFault Check.all check (.invalid .emptyMethod) ∧ check.path = "request.method" ∧
      Archive.decodeStream (.ofReads [.interrupted, .piece (faultyDocument.take 7), .interrupted,
        .piece (faultyDocument.drop 7), .piece []]) = .error (.entry 1 (.invalid .emptyMethod)) ∧
      Archive.decodeStream (.ofReads [.piece faultyDocument, .failed .busy]) =
        .error (.stream .busy) := by
  have hentry : (match Archive.decode faultyDocument with
      | .error (.entry index fault) => some (index, fault)
      | _ => none) = some (1, .invalid .emptyMethod) := by decide +kernel
  have hdecode : Archive.decode faultyDocument = .error (.entry 1 (.invalid .emptyMethod)) := by
    split at hentry
    next h =>
      cases hentry
      exact h
    next => cases hentry
  have hpieces : faultyDocument ≠ [] ∧ faultyDocument.take 7 ≠ [] ∧ faultyDocument.drop 7 ≠ [] := by
    decide +kernel
  obtain ⟨hunreadable, hreadable, hstream⟩ := Archive.decode_first_fault faultyDocument
  obtain ⟨document, hread⟩ : ∃ document, Document.read faultyDocument = .ok document := by
    cases hread : Document.read faultyDocument with
    | ok document => exact ⟨document, rfl⟩
    | error fault =>
      rw [hunreadable fault hread] at hdecode
      cases hdecode
  obtain ⟨before, d, after, check, fault, hsplit, hbefore, hfirst, hpath, herror⟩ :=
    ((hreadable document hread).2.1 _).mp hdecode
  obtain ⟨hlength, rfl⟩ := DecodeError.entry.inj herror
  refine ⟨document, before, d, after, check, hread, hsplit, hlength.symm, hbefore, hfirst,
    hpath.symm, ?_, ?_⟩
  · rw [← hdecode]
    refine (hstream [.interrupted, .piece (faultyDocument.take 7), .interrupted,
      .piece (faultyDocument.drop 7)] ?_ []).1 ?_
    · simp [Disk.Read.GoesOn, hpieces]
    · simp [Disk.Read.bytes]
  · exact (hstream [.piece faultyDocument] (by simp [Disk.Read.GoesOn, hpieces]) []).2 .busy

end Capture

end SessionReplay
