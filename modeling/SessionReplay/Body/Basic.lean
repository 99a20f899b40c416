import SessionReplay.Body.Base64
import SessionReplay.Body.FormText
import SessionReplay.Capture.Archive
import SessionReplay.Text.Quoted

/-!
# Replayed bodies

* `Body` — what is sent as the body of a replayed request;
* `Omission`, `Omission.message` — why a captured body is not sent, and the wording;
* `Body.ofRequest` — the body of a captured request.
-/

namespace SessionReplay

open Capture (NamedValue PostedBody Request)

/-- Why a captured body is not sent. -/
inductive Omission where
  | multipart
  | nameNotText (name : String)
  | valueNotText (name : String)
  | repeatedName (name : String)
  | base64 (fault : Base64.Fault)
  | binary (size : Nat)
  | encoding (name : String)
  deriving DecidableEq, Repr

/-- The kind of bodies that hold several parts. -/
def multipartMime : String := "multipart/form-data"

/-- The kind of bodies that hold the fields of a form. -/
def formMime : String := "application/x-www-form-urlencoded"

/-- The wording of an omission. -/
def Omission.message : Omission → String
  | .multipart => multipartMime ++ " bodies are not replayed"
  | .nameNotText name => "form field name " ++ Text.quoted name ++ " is not UTF-8"
  | .valueNotText name => "form field " ++ Text.quoted name ++ " value is not UTF-8"
  | .repeatedName name => "form field " ++ Text.quoted name ++ " is repeated"
  | .base64 fault => "invalid base64 body: " ++ fault.message
  | .binary size => "binary body of " ++ toString size ++ " bytes"
  | .encoding name => "unsupported body encoding " ++ Text.quoted name

/-- What is sent as the body of a request. -/
inductive Body where
  | absent
  | text (content : String)
  | form (fields : List (String × String))
  | omitted (reason : Omission)
  deriving DecidableEq, Repr

namespace Body

/-! ## Forms -/

/-- One field of a form, whose name is none of `seen`. -/
def formField (seen : List String) (param : NamedValue) : Except Omission (String × String) :=
  match FormText.decode param.name, FormText.decode param.value with
  | none, _ => .error (.nameNotText param.name)
  | _, none => .error (.valueNotText param.name)
  | some name, some value =>
    if seen.contains name then .error (.repeatedName name) else .ok (name, value)

/-- The fields of a form, no two of which have one name. -/
def formFields (seen : List String) : List NamedValue → Except Omission (List (String × String))
  | [] => .ok []
  | param :: params => do
    let field ← formField seen param
    let fields ← formFields (field.1 :: seen) params
    return field :: fields

/-! ## Texts -/

/-- The text that base64 writes between white space. -/
def ofBase64 (written : String) : Body :=
  match Base64.decode (Text.bytes (Text.trim written)) with
  | .error fault => omitted (.base64 fault)
  | .ok bytes =>
    match Text.ofBytes? bytes with
    | some content => text content
    | none => omitted (.binary bytes.length)

/-- The body that the text of a capture writes. -/
def ofText (post : PostedBody) : Body :=
  let written := post.text.getD ""
  if written.isEmpty then absent
  else
    match post.encoding with
    | .plain => text written
    | .base64 => ofBase64 written
    | .other name => omitted (.encoding name)

/-! ## Requests -/

/-- A note in place of a missing body. -/
def orOmitted (reason : Omission) : Body → Body
  | absent => omitted reason
  | body => body

/-- The body that a capture writes. The fields of a form count if they can be sent as fields, and
otherwise its text. -/
def ofPosted (post : PostedBody) : Body :=
  let mime := Text.asciiLower (Text.trim post.mime)
  if mime.startsWith multipartMime then omitted .multipart
  else if mime.startsWith formMime ∧ !post.params.isEmpty then
    match formFields [] post.params with
    | .ok fields => form fields
    | .error reason => orOmitted reason (ofText post)
  else ofText post

/-- The body of a captured request. -/
def ofRequest (request : Request) : Body :=
  match request.post with
  | none => absent
  | some post => if Text.sameLetters request.method "GET" then absent else ofPosted post

end Body

end SessionReplay
