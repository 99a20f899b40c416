import SessionReplay.Capture.Decode
import SessionReplay.Proofs.Json.Plain
import SessionReplay.Proofs.Outcome

/-!
# Spellings of documents

* `Document.Writes` and the relations for its parts — how a document is written: its records as
  objects or lists, its fields in any order and among other keys, its texts with or without escapes;
* `fits_text` and the other lemmas about single fields: the readers of the fields read what may
  stand there;
* `entry_reads`, `document_reads` and those of the other parts: a part is read as what is written;
* **`Archive.decode_of_writes`**: how a document is written does not matter.
-/

namespace SessionReplay.Capture

open Json

/-! ## Spellings -/

/-- A text that may be left out if it is empty. -/
def textSlot (key s : String) : Slot := ⟨key, WritesText s, s = ""⟩

/-- A text that may be null, and may be left out then. -/
def textSlot? (key : String) (s : Option String) : Slot :=
  ⟨key, WritesOption WritesText s, s = none⟩

/-- A list that may be left out if it is empty. -/
def listSlot {α : Type} (key : String) (W : α → List UInt8 → Prop) (as : List α) : Slot :=
  ⟨key, WritesList W as, as = []⟩

/-- A value that may be null, and may be left out then. -/
def slot? {α : Type} (key : String) (W : α → List UInt8 → Prop) (o : Option α) : Slot :=
  ⟨key, WritesOption W o, o = none⟩

/-- A value that is never left out. -/
def slot {α : Type} (key : String) (W : α → List UInt8 → Prop) (a : α) : Slot := ⟨key, W a, False⟩

/-- The fields of a header, a cookie or a field of a form. -/
def NamedValue.slots (x : NamedValue) : List Slot :=
  [slot "name" WritesText x.name, textSlot "value" x.value]

/-- The fields of a tool. -/
def Tool.slots (x : Tool) : List Slot := [textSlot "name" x.name, textSlot "version" x.version]

/-- A header, a cookie or a field of a form is written. -/
def NamedValue.Writes (x : NamedValue) : List UInt8 → Prop := WritesRecord x.slots

/-- A tool is written. -/
def Tool.Writes (x : Tool) : List UInt8 → Prop := WritesRecord x.slots

namespace Document

/-- The fields of a page. -/
def Page.slots (x : Page) : List Slot :=
  [textSlot? "startedDateTime" x.started, textSlot "id" x.id, textSlot "title" x.title]

/-- The fields of a body. -/
def PostedBody.slots (x : PostedBody) : List Slot :=
  [textSlot "mimeType" x.mime, textSlot? "text" x.text, textSlot? "encoding" x.encoding,
    listSlot "params" NamedValue.Writes x.params]

/-- A page is written. -/
def Page.Writes (x : Page) : List UInt8 → Prop := WritesRecord x.slots

/-- A body is written. -/
def PostedBody.Writes (x : PostedBody) : List UInt8 → Prop := WritesRecord x.slots

/-- The fields of a request. -/
def Request.slots (x : Request) : List Slot :=
  [textSlot? "method" x.method, textSlot? "url" x.url,
    listSlot "headers" NamedValue.Writes x.headers, listSlot "cookies" NamedValue.Writes x.cookies,
    slot? "postData" PostedBody.Writes x.post]

/-- The fields of a response; the status is in plain decimal. -/
def Response.slots (x : Response) : List Slot :=
  [slot? "status" WritesInteger x.status, textSlot "statusText" x.statusText]

/-- A request is written. -/
def Request.Writes (x : Request) : List UInt8 → Prop := WritesRecord x.slots

/-- A response is written. -/
def Response.Writes (x : Response) : List UInt8 → Prop := WritesRecord x.slots

/-- The fields of an exchange. -/
def Entry.slots (x : Entry) : List Slot :=
  [textSlot? "pageref" x.pageRef, textSlot? "startedDateTime" x.started,
    slot? "time" WritesFloat x.time, slot "request" Request.Writes x.request,
    slot "response" Response.Writes x.response]

/-- An exchange is written. -/
def Entry.Writes (x : Entry) : List UInt8 → Prop := WritesRecord x.slots

/-- The fields of a session. -/
def slots (x : Document) : List Slot :=
  [textSlot? "version" x.version, slot? "creator" Tool.Writes x.creator,
    slot? "browser" Tool.Writes x.browser, textSlot? "comment" x.comment,
    slot? "pages" (WritesList Page.Writes) x.pages,
    slot "entries" (WritesList Entry.Writes) x.entries]

/-- A session is written, within the outermost record. -/
def WritesLog (x : Document) : List UInt8 → Prop := WritesRecord x.slots

/-- **A document is written.** -/
def Writes (x : Document) : List UInt8 → Prop := WritesRecord [slot "log" WritesLog x]

/-! ## First bytes -/

variable {α : Type} {v : List UInt8}

theorem head?_ne_of_writesText {s : String} (h : WritesText s v) : v.head? ≠ some 'n'.toUInt8 := by
  obtain ⟨pieces, -, rfl⟩ := h
  rw [List.head?_cons]
  decide

theorem head?_ne_of_writesList {W : α → List UInt8 → Prop} {as : List α} (h : WritesList W as v) :
    v.head? ≠ some 'n'.toUInt8 := by
  obtain ⟨vs, body, -, -, rfl⟩ := h
  rw [List.head?_cons]
  decide

theorem head?_ne_of_writesRecord {slots : List Slot} (h : WritesRecord slots v) :
    v.head? ≠ some 'n'.toUInt8 := by
  obtain ⟨_, _, -, -, rfl⟩ | ⟨_, _, -, -, rfl⟩ := h
  · rw [List.head?_cons]
    decide
  · rw [List.head?_cons]
    decide

theorem head?_ne_of_literal {l : Literal} (h : l.Writes v) : v.head? ≠ some 'n'.toUInt8 := by
  obtain ⟨b, tail, rfl, -, hb⟩ := h.front
  rw [List.head?_cons]
  rintro ⟨⟩
  revert hb
  decide

/-! ## Fields -/

variable {αs : List Type} {fields : Fields αs} {row : Row αs} {slots : List Slot} {key : String}

theorem fits_nil : Fields.nil.Fits () [] := trivial

theorem fits_text (s : String) (h : fields.Fits row slots) :
    (Fields.cons (textField key) fields).Fits (s, row) (textSlot key s :: slots) :=
  ⟨rfl, fun _ => Reader.text_reads, fun hs => congrArg some hs.symm, h⟩

theorem fits_value? {p : Reader α} {W : α → List UInt8 → Prop}
    (hp : ∀ a v, W a v → p.Reads v a ∧ v.head? ≠ some 'n'.toUInt8) (o : Option α)
    (h : fields.Fits row slots) :
    (Fields.cons (field? key p) fields).Fits (o, row) (slot? key W o :: slots) :=
  ⟨rfl, fun _ => Reader.optional_reads hp, fun ho => congrArg some ho.symm, h⟩

theorem fits_text? (s : Option String) (h : fields.Fits row slots) :
    (Fields.cons (textField? key) fields).Fits (s, row) (textSlot? key s :: slots) :=
  fits_value? (fun _ _ hs => ⟨Reader.text_reads hs, head?_ne_of_writesText hs⟩) s h

theorem fits_list {p : Reader α} {W : α → List UInt8 → Prop} (hp : ∀ a v, W a v → p.Reads v a)
    (as : List α) (h : fields.Fits row slots) :
    (Fields.cons (listField key p) fields).Fits (as, row) (listSlot key W as :: slots) :=
  ⟨rfl, fun _ => Reader.list_reads hp, fun has => congrArg some has.symm, h⟩

theorem fits_value {p : Reader α} {W : α → List UInt8 → Prop} (hp : ∀ a v, W a v → p.Reads v a)
    (a : α) (h : fields.Fits row slots) :
    (Fields.cons (field key p) fields).Fits (a, row) (slot key W a :: slots) :=
  ⟨rfl, hp a, False.elim, h⟩

/-! ## Parts -/

theorem namedValue_reads (x : NamedValue) (v : List UInt8) (h : x.Writes v) :
    namedValue.Reads v x := by
  have hfits : namedValueRecord.fields.Fits (x.name, x.value, ()) x.slots :=
    fits_value (fun _ _ => Reader.text_reads) x.name (fits_text x.value fits_nil)
  exact (Record.read_reads hfits (by decide) h).bind_pure rfl

theorem tool_reads (x : Tool) (v : List UInt8) (h : x.Writes v) : tool.Reads v x := by
  have hfits : toolRecord.fields.Fits (x.name, x.version, ()) x.slots :=
    fits_text x.name (fits_text x.version fits_nil)
  exact (Record.read_reads hfits (by decide) h).bind_pure rfl

theorem page_reads (x : Page) (v : List UInt8) (h : x.Writes v) : page.Reads v x := by
  have hfits : pageRecord.fields.Fits (x.started, x.id, x.title, ()) x.slots :=
    fits_text? x.started (fits_text x.id (fits_text x.title fits_nil))
  exact (Record.read_reads hfits (by decide) h).bind_pure rfl

theorem postedBody_reads (x : PostedBody) (v : List UInt8) (h : x.Writes v) :
    postedBody.Reads v x := by
  have hfits : postedBodyRecord.fields.Fits (x.mime, x.text, x.encoding, x.params, ()) x.slots :=
    fits_text x.mime (fits_text? x.text (fits_text? x.encoding
    (fits_list namedValue_reads x.params fits_nil)))
  exact (Record.read_reads hfits (by decide) h).bind_pure rfl

theorem request_reads (x : Request) (v : List UInt8) (h : x.Writes v) : request.Reads v x := by
  have hpost (post : PostedBody) (v : List UInt8) (h : post.Writes v) :
      postedBody.Reads v post ∧ v.head? ≠ some 'n'.toUInt8 :=
    ⟨postedBody_reads post v h, head?_ne_of_writesRecord h⟩
  have hfits : requestRecord.fields.Fits (x.method, x.url, x.headers, x.cookies, x.post, ())
      x.slots :=
    fits_text? x.method (fits_text? x.url (fits_list namedValue_reads x.headers
    (fits_list namedValue_reads x.cookies (fits_value? hpost x.post fits_nil))))
  exact (Record.read_reads hfits (by decide) h).bind_pure rfl

theorem response_reads (x : Response) (v : List UInt8) (h : x.Writes v) : response.Reads v x := by
  have hstatus (n : Int) (v : List UInt8) (h : WritesInteger n v) :
      Reader.integer.Reads v n ∧ v.head? ≠ some 'n'.toUInt8 := by
    obtain ⟨l, hl, -⟩ := exists_literal_of_integer h
    exact ⟨Reader.integer_reads h, head?_ne_of_literal hl⟩
  have hfits : responseRecord.fields.Fits (x.status, x.statusText, ()) x.slots :=
    fits_value? hstatus x.status (fits_text x.statusText fits_nil)
  exact (Record.read_reads hfits (by decide) h).bind_pure rfl

theorem entry_reads (x : Entry) (v : List UInt8) (h : x.Writes v) : entry.Reads v x := by
  have htime (t : Float) (v : List UInt8) (h : WritesFloat t v) :
      Reader.float.Reads v t ∧ v.head? ≠ some 'n'.toUInt8 := by
    refine ⟨Reader.float_reads h, ?_⟩
    obtain ⟨l, hl, -⟩ := h
    exact head?_ne_of_literal hl
  have hfits : entryRecord.fields.Fits (x.pageRef, x.started, x.time, x.request, x.response, ())
      x.slots :=
    fits_text? x.pageRef (fits_text? x.started (fits_value? htime x.time
    (fits_value request_reads x.request (fits_value response_reads x.response fits_nil))))
  exact (Record.read_reads hfits (by decide) h).bind_pure rfl

theorem log_reads (x : Document) (v : List UInt8) (h : x.WritesLog v) : log.Reads v x := by
  have htool (x : Tool) (v : List UInt8) (h : x.Writes v) :
      tool.Reads v x ∧ v.head? ≠ some 'n'.toUInt8 :=
    ⟨tool_reads x v h, head?_ne_of_writesRecord h⟩
  have hpages (xs : List Page) (v : List UInt8) (h : WritesList Page.Writes xs v) :
      (Reader.list page).Reads v xs ∧ v.head? ≠ some 'n'.toUInt8 :=
    ⟨Reader.list_reads page_reads h, head?_ne_of_writesList h⟩
  have hfits : logRecord.fields.Fits
      (x.version, x.creator, x.browser, x.comment, x.pages, x.entries, ()) x.slots :=
    fits_text? x.version (fits_value? htool x.creator (fits_value? htool x.browser
    (fits_text? x.comment (fits_value? hpages x.pages
      (fits_value (fun _ _ => Reader.list_reads entry_reads) x.entries fits_nil)))))
  exact (Record.read_reads hfits (by decide) h).bind_pure rfl

theorem document_reads (x : Document) (v : List UInt8) (h : x.Writes v) : document.Reads v x := by
  have hfits : documentRecord.fields.Fits (x, ()) [slot "log" WritesLog x] :=
    fits_value log_reads x fits_nil
  exact (Record.read_reads hfits (by decide) h).bind_pure rfl

end Document

/-- **How a document is written does not matter**: its session, or the fault of its first entry that
has one, is that of the document itself. -/
theorem Archive.decode_of_writes {document : Document} {before v after : List UInt8}
    (h : document.Writes v) (hbefore : Blanks before) (hafter : Blanks after) :
    Archive.decode (before ++ (v ++ after)) = Archive.ofDocument document := by
  have hread : Document.read (before ++ (v ++ after)) = .ok document :=
    Reader.readAll_of_reads (Document.document_reads document v h) hbefore hafter
  rw [Archive.decode, hread]
  rfl

/-- A session with one exchange. -/
def oneExchange : Document :=
  { version := none
    creator := none
    browser := none
    comment := none
    pages := none
    entries := [
      { pageRef := none
        started := some "2024-01-01T10:00:00Z"
        time := some (Float.ofInt 12)
        request := ⟨some "get", some "https://a.test/", [], [], none⟩
        response := ⟨some 200, ""⟩ }] }

/-- The exchange, with its fields in another order and without those that may be left out. -/
def exchangeBytes : List UInt8 :=
  object [("response", object [("status", Text.bytes "200")]), ("time", Text.bytes "12"),
    ("request", object [("url", quoted "https://a.test/"), ("method", quoted "get")]),
    ("startedDateTime", quoted "2024-01-01T10:00:00Z")]

theorem writes_response : Document.Response.Writes ⟨some 200, ""⟩
    (object [("status", Text.bytes "200")]) := by
  refine writesRecord_object (by decide) (by decide) (by decide) ?_
  refine List.forall_mem_cons.mpr ⟨.inl ⟨_, List.mem_singleton_self _, by decide, rfl⟩, ?_⟩
  exact List.forall_mem_singleton.mpr (.inr ⟨by decide, rfl⟩)

theorem writes_request : Document.Request.Writes ⟨some "get", some "https://a.test/", [], [], none⟩
    (object [("url", quoted "https://a.test/"), ("method", quoted "get")]) := by
  refine writesRecord_object (by decide) (by decide) (by decide) ?_
  simp only [Document.Request.slots, List.forall_mem_cons]
  exact ⟨.inl ⟨_, .tail _ (.head _), writesText_quoted (by decide)⟩,
    .inl ⟨_, .head _, writesText_quoted (by decide)⟩, .inr ⟨by decide, rfl⟩,
    .inr ⟨by decide, rfl⟩, .inr ⟨by decide, rfl⟩, nofun⟩

theorem writes_time : WritesFloat (Float.ofInt 12) (Text.bytes "12") := by
  have hinteger : WritesInteger 12 (Text.bytes "12") := ⟨by decide, rfl⟩
  obtain ⟨l, hl, hnumber⟩ := exists_literal_of_integer hinteger
  exact ⟨l, hl, .inr ⟨12, hnumber, rfl⟩⟩

theorem writes_exchange :
    List.Forall₂ Document.Entry.Writes oneExchange.entries [exchangeBytes] := by
  refine .cons (writesRecord_object (by decide) (by decide) (by decide) ?_) .nil
  simp only [Document.Entry.slots, List.forall_mem_cons]
  exact ⟨.inr ⟨by decide, rfl⟩,
    .inl ⟨_, .tail _ (.tail _ (.tail _ (.head _))), writesText_quoted (by decide)⟩,
    .inl ⟨_, .tail _ (.head _), writes_time⟩, .inl ⟨_, .tail _ (.tail _ (.head _)), writes_request⟩,
    .inl ⟨_, .head _, writes_response⟩, nofun⟩

/-- The session as a list of all its fields. -/
def sessionBytes : List UInt8 :=
  array [Text.bytes "null", Text.bytes "null", Text.bytes "null", Text.bytes "null",
    Text.bytes "null", array [exchangeBytes]]

theorem writes_session : oneExchange.WritesLog sessionBytes :=
  writesRecord_array (.cons rfl (.cons rfl (.cons rfl (.cons rfl (.cons rfl
    (.cons (writesList_array writes_exchange) .nil))))))

/-- The key of the session with an escape, and another key after it. -/
def spelledMembers : List (String × Member) :=
  [("log", ⟨Text.bytes "\"\\u006Cog\"", [], [], sessionBytes⟩),
    ("x", ⟨quoted "x", [], Text.bytes " ", array [Text.bytes "true"]⟩)]

theorem blanks_space : Blanks (Text.bytes " ") := by
  intro b hb
  have hbytes : Text.bytes " " = [' '.toUInt8] := by decide +kernel
  rw [hbytes, List.mem_singleton] at hb
  exact .inl hb

theorem writesText_log : WritesText "log" (Text.bytes "\"\\u006Cog\"") := by
  have hunit : HexUnit 'l'.toNat (Text.bytes "006C") :=
    ⟨0, 0, 6, 12, rfl, .cons ⟨by decide, by decide +kernel⟩ (.cons ⟨by decide, by decide +kernel⟩
      (.cons ⟨by decide, by decide +kernel⟩ (.cons ⟨by decide, by decide +kernel⟩ .nil)))⟩
  exact ⟨_, .cons (.unit hunit) (.cons (.literal (by decide) (by decide) (by decide))
    (.cons (.literal (by decide) (by decide) (by decide)) .nil)), by decide +kernel⟩

theorem value_true : Value (array [Text.bytes "true"]) :=
  .list (List.forall_mem_singleton.mpr (.word (by decide))) (listed_listed _)

theorem objectForm_spelledMembers :
    ObjectForm [slot "log" Document.WritesLog oneExchange] spelledMembers where
  keys := List.forall_mem_cons.mpr ⟨writesText_log,
    List.forall_mem_singleton.mpr (writesText_quoted (by decide))⟩
  blanks := List.forall_mem_cons.mpr ⟨⟨blanks_nil, blanks_nil⟩,
    List.forall_mem_singleton.mpr ⟨blanks_nil, blanks_space⟩⟩
  once := List.forall_mem_singleton.mpr (by decide)
  given := List.forall_mem_singleton.mpr (.inl (by decide))
  written := List.forall_mem_cons.mpr
    ⟨List.forall_mem_singleton.mpr fun _ => writes_session,
    List.forall_mem_singleton.mpr (List.forall_mem_singleton.mpr fun h => absurd h (by decide))⟩
  others := List.forall_mem_cons.mpr ⟨fun h => absurd rfl (h _ List.mem_cons_self),
    List.forall_mem_singleton.mpr fun _ => value_true⟩

/-- The session with white space in front. -/
def spelledText : String :=
  " \x7b\"\\u006Cog\":[null,null,null,null,null,[\x7b\"response\":\x7b\"status\":200\x7d," ++
    "\"time\":12,\"request\":\x7b\"url\":\"https://a.test/\",\"method\":\"get\"\x7d," ++
    "\"startedDateTime\":\"2024-01-01T10:00:00Z\"\x7d]], \"x\": [true]\x7d"

theorem writes_spelledMembers : oneExchange.Writes ((Text.bytes spelledText).drop 1) :=
  .inl ⟨spelledMembers, _, objectForm_spelledMembers,
    .some blanks_nil (.next blanks_nil blanks_space (.ended blanks_nil)), by decide +kernel⟩

/-- The outermost key is escaped and stands before another one, its record is a list, and that of
the exchange is an object with its fields in another order. -/
theorem decode_of_writes_spelledMembers : ∃ archive,
    Archive.decode (Text.bytes spelledText) = .ok archive ∧
    archive.entries.map (fun entry =>
      (entry.request.method, entry.request.url.text, entry.response.status,
        entry.response.statusText)) = [("get", "https://a.test/", 200, "")] := by
  have hbytes : Text.bytes spelledText =
      Text.bytes " " ++ ((Text.bytes spelledText).drop 1 ++ []) := by decide +kernel
  have hdecode := Archive.decode_of_writes writes_spelledMembers blanks_space blanks_nil
  have hentries : (Archive.ofDocument oneExchange).toOption.map (fun archive =>
      archive.entries.map fun entry => (entry.request.method, entry.request.url.text,
        entry.response.status, entry.response.statusText)) =
      some [("get", "https://a.test/", 200, "")] := by decide +kernel
  obtain ⟨archive, harchive, hentries⟩ := Option.map_eq_some_iff.mp hentries
  rw [hbytes, hdecode]
  exact ⟨archive, toOption_eq_some_iff.mp harchive, hentries⟩

end SessionReplay.Capture
