import SessionReplay.Capture.Document
import SessionReplay.Disk.Fault
import SessionReplay.Instant.Rfc3339
import SessionReplay.Url.Parse

/-!
# Sessions from their documents

The whole document is read first; then the entries are checked one after the other. Notes about the
session are cleaned and never rejected.

* `DecodeError`, `DecodeError.message` — why bytes are no session, and the wording;
* `Entry.ofDocument`, `Archive.ofDocument` — checked entries and sessions;
* `Archive.decode`, `Archive.decodeStream` — the session that bytes write.
-/

namespace SessionReplay.Capture

/-- A field that every entry must have. -/
inductive EntryField where
  | started
  | method
  | url
  | status
  deriving DecidableEq, Repr

/-- The place of a field in an entry. -/
def EntryField.path : EntryField → String
  | .started => "startedDateTime"
  | .method => "request.method"
  | .url => "request.url"
  | .status => "response.status"

/-- Why the value of a field cannot be used. -/
inductive FieldFault where
  | instant (written : String) (fault : Instant.Rfc3339.Fault)
  | emptyMethod
  | url (written : String) (fault : Url.Fault)
  | noHost (written : String)
  | status (written : Int)
  deriving DecidableEq, Repr

/-- The wording of a fault. -/
def FieldFault.message : FieldFault → String
  | .instant written fault => Text.quoted written ++ ": " ++ fault.message
  | .emptyMethod => "empty method"
  | .url written fault => Text.quoted written ++ ": " ++ fault.message
  | .noHost written => Text.quoted written ++ ": URL has no host"
  | .status written => toString written ++ " is not an HTTP status code"

/-- The field whose fault it is. -/
def FieldFault.field : FieldFault → EntryField
  | .instant .. => .started
  | .emptyMethod => .method
  | .url .. | .noHost _ => .url
  | .status _ => .status

/-- What is wrong with an entry. -/
inductive EntryFault where
  | missing (field : EntryField)
  | invalid (fault : FieldFault)
  deriving DecidableEq, Repr

/-- Why bytes are no session. -/
inductive DecodeError where
  | document (fault : Json.Fault)
  | stream (fault : Disk.Fault)
  | entry (index : Nat) (fault : EntryFault)

/-- The wording of an error. -/
def DecodeError.message : DecodeError → String
  | .document fault => "malformed HAR document: " ++ fault.message
  | .stream fault => "read HAR stream: " ++ fault.message
  | .entry index (.missing field) =>
    "entry " ++ toString index ++ ": missing required field `" ++ field.path ++ "`"
  | .entry index (.invalid fault) =>
    "entry " ++ toString index ++ ": invalid `" ++ fault.field.path ++ "`: " ++ fault.message

/-! ## Checks -/

/-- A field that must be there. -/
def required {α : Type} (field : EntryField) : Option α → Except EntryFault α
  | some value => .ok value
  | none => .error (.missing field)

/-- The instant that a text writes between white space. -/
def instant (written : String) : Except Instant.Rfc3339.Fault Instant :=
  Instant.Rfc3339.read (Text.trim written)

/-- The start of an entry. -/
def checkStarted (written : String) : Except FieldFault Instant :=
  (instant written).mapError (.instant written)

/-- The method of a request. -/
def checkMethod (written : String) : Except FieldFault String :=
  let method := Text.trim written
  if method.isEmpty then .error .emptyMethod else .ok method

/-- The address of a request, which has a host. -/
def checkUrl (written : String) : Except FieldFault Url :=
  match Url.parse (Text.trim written) with
  | .error fault => .error (.url written fault)
  | .ok url => if url.hostText?.isSome then .ok url else .error (.noHost written)

/-- The greatest status. -/
def maxStatus : Nat := 999

/-- The status of a response. -/
def checkStatus (written : Int) : Except FieldFault Nat :=
  if 0 ≤ written ∧ written ≤ maxStatus then .ok written.toNat else .error (.status written)

/-- A number of milliseconds; what is none counts as zero. -/
def cleanTime (time : Option Float) : Float :=
  match time with
  | some t => if t.isFinite && t >= 0 then t else 0
  | none => 0

/-- A checked body. -/
def PostedBody.ofDocument (d : Document.PostedBody) : PostedBody :=
  { mime := d.mime
    text := d.text
    encoding := BodyEncoding.ofDeclared d.encoding
    params := d.params }

/-- A checked entry; of several faults the first one counts. -/
def Entry.ofDocument (d : Document.Entry) : Except EntryFault Entry := do
  let started ← required .started d.started
  let started ← (checkStarted started).mapError .invalid
  let method ← required .method d.request.method
  let method ← (checkMethod method).mapError .invalid
  let url ← required .url d.request.url
  let url ← (checkUrl url).mapError .invalid
  let status ← required .status d.response.status
  let status ← (checkStatus status).mapError .invalid
  return {
    pageRef := d.pageRef.filter fun ref => !ref.isEmpty
    started
    time := cleanTime d.time
    request :=
      { method
        url
        headers := d.request.headers
        cookies := d.request.cookies
        post := d.request.post.map PostedBody.ofDocument }
    response := ⟨status, d.response.statusText⟩ }

/-- A page; a start that cannot be read is dropped. -/
def Page.ofDocument (d : Document.Page) : Page :=
  ⟨d.id, d.title, d.started.bind fun written => (instant written).toOption⟩

/-- The checked entries from a place on. -/
def checkEntries : Nat → List Document.Entry → Except DecodeError (List Entry)
  | _, [] => .ok []
  | index, d :: rest => do
    let entry ← (Entry.ofDocument d).mapError (.entry index)
    let entries ← checkEntries (index + 1) rest
    return entry :: entries

/-- A checked session. -/
def Archive.ofDocument (d : Document) : Except DecodeError Archive := do
  let entries ← checkEntries 0 d.entries
  return {
    version := d.version.getD ""
    creator := d.creator
    browser := d.browser
    comment := d.comment.filter fun comment => !(Text.trim comment).isEmpty
    pages := (d.pages.getD []).map Page.ofDocument
    entries }

/-- The session that bytes write. -/
def Archive.decode (bytes : List UInt8) : Except DecodeError Archive := do
  let document ← (Document.read bytes).mapError .document
  Archive.ofDocument document

/-! ## Streams -/

/-- The session that a stream writes, which is read to its end first. -/
def Archive.decodeStream (stream : Disk.Stream) : Except DecodeError Archive :=
  match stream.failure with
  | some fault => .error (.stream fault)
  | none => Archive.decode stream.pieces.flatten

end SessionReplay.Capture
