import SessionReplay.Text.Blank
import SessionReplay.Url.Percent

/-!
# Paths

A path is built segment by segment. A segment of one dot is left out, one of two dots takes the
segment before it back, and a drive letter at the start of a file path stays where it is.

* `SchemeKind` — the web's own schemes, files, and all others;
* `readPath` — the path of the characters up to a question mark or a number sign.
-/

namespace SessionReplay.Url

/-- How the scheme decides the reading of the rest of an address. -/
inductive SchemeKind where
  | web
  | file
  | other
  deriving DecidableEq, Repr

/-- The kind of a scheme, in small letters. -/
def SchemeKind.ofScheme (scheme : String) : SchemeKind :=
  if ["http", "https", "ws", "wss", "ftp"].contains scheme then .web
  else if scheme = "file" then .file
  else .other

/-- A character that separates segments: a slash, and a backslash where the scheme is special. -/
def SchemeKind.separates (kind : SchemeKind) (c : Char) : Bool :=
  c == '/' || (c == '\\' && kind != .other)

/-! ## Drive letters -/

/-- A letter and a colon or a bar. -/
def isDriveLetter : List Char → Bool
  | [c, d] => c.isAlpha && (d == ':' || d == '|')
  | _ => false

/-- A slash and a drive letter, followed by nothing or by the end of a segment. -/
def startsWithDriveLetter : List Char → Bool
  | '/' :: c :: d :: rest =>
    isDriveLetter [c, d] &&
      (match rest with
        | [] => true
        | e :: _ => ['/', '\\', '?', '#'].contains e)
  | _ => false

/-! ## Segments -/

/-- A path that is being built. `drive` tells that a drive letter came first. -/
structure PathBuilder where
  text : List Char
  drive : Bool

/-- A segment of one dot, which may be escaped. -/
def isSingleDot (segment : List Char) : Bool :=
  [".", "%2e"].contains (Text.asciiLower (String.ofList segment))

/-- A segment of two dots, which may be escaped. -/
def isDoubleDot (segment : List Char) : Bool :=
  ["..", "%2e.", ".%2e", "%2e%2e"].contains (Text.asciiLower (String.ofList segment))

/-- The characters up to and including the last slash. -/
def upToSlash (path : List Char) : List Char :=
  (path.reverse.dropWhile (· != '/')).reverse

/-- A path that ends with a slash without that slash, unless it is the only one or follows a drive
letter. -/
def withoutSlash (path : List Char) : List Char :=
  if path.getLast? = some '/' then
    let start := upToSlash path.dropLast
    if start.isEmpty ∨ startsWithDriveLetter (path.drop (start.length - 1)) then path
    else path.dropLast
  else path

/-- A path without its last segment; a drive letter is never removed from a file path. -/
def withoutSegment (kind : SchemeKind) (path : List Char) : List Char :=
  let start := upToSlash path
  if kind = .file ∧ isDriveLetter (path.drop start.length) ∧ path.getLast? = some ':' then path
  else start

/-- A path with a slash at its end. -/
def withSlash (path : List Char) : List Char :=
  if path.getLast? = some '/' then path else path ++ ['/']

/-- The next segment of a path; `slash` tells that a separator follows it. -/
def PathBuilder.add (kind : SchemeKind) (b : PathBuilder) (segment : List Char) (slash : Bool) :
    PathBuilder :=
  let segment := encode EscapeSet.path segment
  let ending := if slash then ['/'] else []
  if isDoubleDot segment then
    let shorter := withoutSegment kind (withoutSlash b.text)
    { b with text := if slash then withSlash shorter else shorter }
  else if isSingleDot segment then { b with text := withSlash b.text }
  else if kind = .file ∧ b.text = ['/'] ∧ isDriveLetter segment then
    ⟨b.text ++ segment.take 1 ++ ':' :: ending, true⟩
  else { b with text := b.text ++ segment ++ ending }

/-- The segments of the characters that are left. -/
def PathBuilder.addAll (kind : SchemeKind) (b : PathBuilder) (segment : List Char) :
    List Char → PathBuilder
  | [] => b.add kind segment.reverse false
  | c :: rest =>
    if kind.separates c then (b.add kind segment.reverse true).addAll kind [] rest
    else b.addAll kind (c :: segment) rest

/-- A character that ends a path. -/
def endsPath (c : Char) : Bool :=
  c == '?' || c == '#'

/-- The path that the characters up to a question mark or a number sign write after `start`. -/
def readPath (kind : SchemeKind) (start : List Char) (cs : List Char) : PathBuilder :=
  let b := PathBuilder.addAll kind ⟨start, false⟩ [] (cs.takeWhile (!endsPath ·))
  if kind = .file then { b with text := '/' :: b.text.dropWhile (· == '/') } else b

end SessionReplay.Url
