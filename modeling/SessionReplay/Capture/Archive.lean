import SessionReplay.Instant.Basic
import SessionReplay.Text.Blank
import SessionReplay.Url.Basic

/-!
# Recorded sessions

* `Archive` — a recorded session: its entries in the order of their capture, and notes about it;
* `Entry`, `Request`, `Response`, `PostedBody` — one exchange and its parts;
* `BodyEncoding` — how the text of a body is to be read.
-/

namespace SessionReplay.Capture

/-- A name and a value: a header, a cookie or a field of a form. -/
structure NamedValue where
  name : String
  value : String
  deriving DecidableEq, Repr

/-- The program that made a capture, or the browser that was recorded. -/
structure Tool where
  name : String
  version : String
  deriving DecidableEq, Repr

/-- A page that was visited. -/
structure Page where
  id : String
  title : String
  started : Option Instant
  deriving DecidableEq, Repr

/-- How the text of a body is to be read. -/
inductive BodyEncoding where
  | plain
  | base64
  | other (name : String)
  deriving DecidableEq, Repr

/-- The encoding that a capture declares; none means plain text. -/
def BodyEncoding.ofDeclared (declared : Option String) : BodyEncoding :=
  let name := Text.trim (declared.getD "")
  if name.isEmpty then .plain
  else if Text.sameLetters name "base64" then .base64
  else if ["utf-8", "utf8", "identity"].any (Text.sameLetters name) then .plain
  else .other name

/-- The body that a request carried. -/
structure PostedBody where
  mime : String
  text : Option String
  encoding : BodyEncoding
  params : List NamedValue
  deriving DecidableEq, Repr

/-- A request. Headers and cookies are as they were captured. -/
structure Request where
  method : String
  url : Url
  headers : List NamedValue
  cookies : List NamedValue
  post : Option PostedBody
  deriving DecidableEq, Repr

/-- A response. The status is zero if none was recorded. -/
structure Response where
  status : Nat
  statusText : String
  deriving DecidableEq, Repr

/-- An exchange of a request and a response; it took `time` milliseconds. -/
structure Entry where
  pageRef : Option String
  started : Instant
  time : Float
  request : Request
  response : Response

/-- The host that the request goes to. -/
def Entry.host? (e : Entry) : Option String :=
  e.request.url.hostText?

/-- A recorded session. -/
structure Archive where
  version : String
  creator : Option Tool
  browser : Option Tool
  comment : Option String
  pages : List Page
  entries : List Entry

end SessionReplay.Capture
