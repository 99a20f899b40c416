import SessionReplay.Capture.Archive

/-!
# Replayed headers

* `replayed` — the headers of a captured request that are sent again.
-/

namespace SessionReplay.Headers

open Capture (NamedValue)

/-- The name that tells one header from another. -/
def key (header : NamedValue) : String :=
  Text.asciiLower (Text.trim header.name)

/-- The names that no header may have: the length of the body is computed, and cookies that are sent
on their own are not sent twice. -/
def reserved (withCookies : Bool) : List String :=
  "content-length" :: if withCookies then ["cookie"] else []

/-- The headers whose names are neither among `seen` nor repeated, nor empty, nor begin with a
colon. -/
def fresh (seen : List String) : List NamedValue → List NamedValue
  | [] => []
  | header :: headers =>
    let name := key header
    if name.isEmpty ∨ name.startsWith ":" ∨ seen.contains name then fresh seen headers
    else header :: fresh (name :: seen) headers

/-- The headers that are sent again, in the order and the letter case of the capture. -/
def replayed (headers : List NamedValue) (withCookies : Bool) : List NamedValue :=
  fresh (reserved withCookies) headers

end SessionReplay.Headers
