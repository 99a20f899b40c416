import SessionReplay.Capture.Archive
import SessionReplay.Json.Record

/-!
# Documents of sessions

A session as its document writes it, before anything but its shape is checked.

* `Document` and its parts — the values of the fields;
* the `Json.Record` values — the fields of each part, in the order of their declaration;
* `Document.read` — the document that bytes write.
-/

namespace SessionReplay.Capture

/-! ## Parts -/

namespace Document

/-- A page. -/
structure Page where
  started : Option String
  id : String
  title : String
  deriving DecidableEq, Repr

/-- The body of a request. -/
structure PostedBody where
  mime : String
  text : Option String
  encoding : Option String
  params : List NamedValue
  deriving DecidableEq, Repr

/-- A request. -/
structure Request where
  method : Option String
  url : Option String
  headers : List NamedValue
  cookies : List NamedValue
  post : Option PostedBody
  deriving DecidableEq, Repr

/-- A response. -/
structure Response where
  status : Option Int
  statusText : String
  deriving DecidableEq, Repr

/-- An exchange. -/
structure Entry where
  pageRef : Option String
  started : Option String
  time : Option Float
  request : Request
  response : Response

end Document

/-- A session. -/
structure Document where
  version : Option String
  creator : Option Tool
  browser : Option Tool
  comment : Option String
  pages : Option (List Document.Page)
  entries : List Document.Entry

/-! ## Fields -/

namespace Document

open Json (Reader Record)

/-- A text that may be missing. -/
def textField (key : String) : Json.Field String := ⟨key, Reader.text, some ""⟩

/-- A text that may be missing or null, which is told from an empty one. -/
def textField? (key : String) : Json.Field (Option String) :=
  ⟨key, Reader.optional Reader.text, some none⟩

/-- A list that may be missing. -/
def listField {α : Type} (key : String) (item : Reader α) : Json.Field (List α) :=
  ⟨key, Reader.list item, some []⟩

/-- A value that may be missing or null. -/
def field? {α : Type} (key : String) (value : Reader α) : Json.Field (Option α) :=
  ⟨key, Reader.optional value, some none⟩

/-- A value that is always there. -/
def field {α : Type} (key : String) (value : Reader α) : Json.Field α := ⟨key, value, none⟩

/-- The fields of a header, a cookie or a field of a form. -/
def namedValueRecord : Record [String, String] :=
  ⟨"RawNameValue", .cons (field "name" Reader.text) (.cons (textField "value") .nil)⟩

/-- A header, a cookie or a field of a form, as it is written. -/
def namedValue : Reader NamedValue := do
  let (name, value, ()) ← namedValueRecord.read
  return ⟨name, value⟩

/-- The fields of a tool. -/
def toolRecord : Record [String, String] :=
  ⟨"RawCreator", .cons (textField "name") (.cons (textField "version") .nil)⟩

/-- A tool, as it is written. -/
def tool : Reader Tool := do
  let (name, version, ()) ← toolRecord.read
  return ⟨name, version⟩

/-- The fields of a page. -/
def pageRecord : Record [Option String, String, String] :=
  ⟨"RawPage",
    .cons (textField? "startedDateTime") (.cons (textField "id") (.cons (textField "title") .nil))⟩

/-- A page, as it is written. -/
def page : Reader Page := do
  let (started, id, title, ()) ← pageRecord.read
  return ⟨started, id, title⟩

/-- The fields of a body. -/
def postedBodyRecord : Record [String, Option String, Option String, List NamedValue] :=
  ⟨"RawPostData",
    .cons (textField "mimeType") (.cons (textField? "text") (.cons (textField? "encoding")
      (.cons (listField "params" namedValue) .nil)))⟩

/-- A body, as it is written. -/
def postedBody : Reader PostedBody := do
  let (mime, text, encoding, params, ()) ← postedBodyRecord.read
  return ⟨mime, text, encoding, params⟩

/-- The fields of a request. -/
def requestRecord :
    Record [Option String, Option String, List NamedValue, List NamedValue, Option PostedBody] :=
  ⟨"RawRequest",
    .cons (textField? "method") (.cons (textField? "url") (.cons (listField "headers" namedValue)
      (.cons (listField "cookies" namedValue) (.cons (field? "postData" postedBody) .nil))))⟩

/-- A request, as it is written. -/
def request : Reader Request := do
  let (method, url, headers, cookies, post, ()) ← requestRecord.read
  return ⟨method, url, headers, cookies, post⟩

/-- The fields of a response. -/
def responseRecord : Record [Option Int, String] :=
  ⟨"RawResponse", .cons (field? "status" Reader.integer) (.cons (textField "statusText") .nil)⟩

/-- A response, as it is written. -/
def response : Reader Response := do
  let (status, statusText, ()) ← responseRecord.read
  return ⟨status, statusText⟩

/-- The fields of an exchange. -/
def entryRecord : Record [Option String, Option String, Option Float, Request, Response] :=
  ⟨"RawEntry",
    .cons (textField? "pageref") (.cons (textField? "startedDateTime")
      (.cons (field? "time" Reader.float) (.cons (field "request" request)
        (.cons (field "response" response) .nil))))⟩

/-- An exchange, as it is written. -/
def entry : Reader Entry := do
  let (pageRef, started, time, request, response, ()) ← entryRecord.read
  return ⟨pageRef, started, time, request, response⟩

/-- The fields of a session. -/
def logRecord :
    Record
      [Option String, Option Tool, Option Tool, Option String, Option (List Page), List Entry] :=
  ⟨"RawLog",
    .cons (textField? "version") (.cons (field? "creator" tool) (.cons (field? "browser" tool)
      (.cons (textField? "comment") (.cons (field? "pages" (Reader.list page))
        (.cons (field "entries" (Reader.list entry)) .nil)))))⟩

/-- A session, as it is written. -/
def log : Reader Document := do
  let (version, creator, browser, comment, pages, entries, ()) ← logRecord.read
  return ⟨version, creator, browser, comment, pages, entries⟩

/-- The one field of the outermost record. -/
def documentRecord : Record [Document] :=
  ⟨"RawHar", .cons (field "log" log) .nil⟩

/-- A session in the outermost record. -/
def document : Reader Document := do
  let (log, ()) ← documentRecord.read
  return log

/-- The document that bytes write. -/
def read (bytes : List UInt8) : Except Json.Fault Document :=
  document.readAll bytes

end Document

end SessionReplay.Capture
