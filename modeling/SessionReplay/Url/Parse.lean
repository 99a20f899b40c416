import SessionReplay.Url.Basic
import SessionReplay.Url.Path

/-!
# Reading an address

* `Url.parse` — the address that a text writes, or the first fault from the left.

Control characters and spaces around the text, and tabs and line ends anywhere in it, do not
count.
-/

namespace SessionReplay.Url

/-- The characters of a text that count. -/
def significant (s : String) : List Char :=
  let outer (c : Char) : Bool := c.toNat ≤ 0x20
  (Text.dropEndWhile outer (s.toList.dropWhile outer)).filter fun c =>
    !(c == '\t' || c == '\n' || c == '\r')

/-! ## Scheme -/

/-- A character of a scheme after its first letter. -/
def isSchemeChar (c : Char) : Bool :=
  c.isAlphanum || c == '+' || c == '-' || c == '.'

/-- The scheme in small letters, and what follows its colon. -/
def readScheme (cs : List Char) : Except Fault (String × List Char) :=
  let scheme := cs.takeWhile isSchemeChar
  match scheme, cs.dropWhile isSchemeChar with
  | c :: _, ':' :: rest =>
    if c.isAlpha then .ok (Text.asciiLower (String.ofList scheme), rest) else .error .noScheme
  | _, _ => .error .noScheme

/-- The port that a scheme has if none is written. -/
def defaultPort? (scheme : String) : Option Nat :=
  match scheme with
  | "http" | "ws" => some 80
  | "https" | "wss" => some 443
  | "ftp" => some 21
  | _ => none

/-! ## Authority -/

/-- A character that ends an authority. -/
def endsAuthority (kind : SchemeKind) (c : Char) : Bool :=
  kind.separates c || endsPath c

/-- The user name and the password before the last `@` of an authority, and what follows it. -/
def readCredentials (kind : SchemeKind) (cs : List Char) :
    Except Fault (String × Option String × List Char) :=
  let authority := cs.takeWhile (!endsAuthority kind ·)
  let after := cs.drop authority.length
  let host := (authority.reverse.takeWhile (· != '@')).reverse
  let before := (authority.take (authority.length - host.length)).dropLast
  if host.length = authority.length then .ok ("", none, cs)
  else if before.isEmpty then
    if host.isEmpty ∧ !after.isEmpty then .error .emptyHost else .ok ("", none, host ++ after)
  else
    let user := before.takeWhile (· != ':')
    let password := before.drop (user.length + 1)
    let escaped (part : List Char) := String.ofList (encode EscapeSet.userinfo part)
    .ok (escaped user, if password.isEmpty then none else some (escaped password), host ++ after)

/-- The characters of a host: up to a colon outside brackets, or to the end of the authority. -/
def takeHost (kind : SchemeKind) (inside : Bool) : List Char → List Char
  | [] => []
  | c :: rest =>
    if (c == ':' && !inside) || endsAuthority kind c then []
    else c :: takeHost kind (if c == '[' then true else if c == ']' then false else inside) rest

/-- The host that characters write. -/
def readHost (kind : SchemeKind) (cs : List Char) : Except Fault Host :=
  if kind = .web then
    if cs.isEmpty then .error .emptyHost else Host.parse (String.ofList cs)
  else Host.parseOpaque (String.ofList cs)

/-- The number of a port, digit by digit. -/
def portNumber? (cs : List Char) : Option Nat :=
  cs.foldlM (fun n c => (Text.decimalValue? c.toNat).bind fun d =>
    if 10 * n + d ≤ 65535 then some (10 * n + d) else none) 0

/-- The port after a host, left out if it is the one that the scheme has anyway, and what follows
it. -/
def readPort (scheme : String) : List Char → Except Fault (Option Nat × List Char)
  | ':' :: cs =>
    let digits := cs.takeWhile fun c => !(endsPath c || c == '/' || c == '\\')
    match portNumber? digits with
    | none => .error .port
    | some n =>
      let port := if digits.isEmpty ∨ defaultPort? scheme = some n then none else some n
      .ok (port, cs.drop digits.length)
  | cs => .ok (none, cs)

/-- The authority after two slashes, and what follows it. -/
def readAuthority (scheme : String) (kind : SchemeKind) (cs : List Char) :
    Except Fault (Authority × List Char) := do
  let (user, password, cs) ← readCredentials kind cs
  let hostChars := takeHost kind false cs
  let host ← readHost kind hostChars
  let rest := cs.drop hostChars.length
  if host.text.isEmpty ∧ rest.head? = some ':' then throw .emptyHost
  let (port, rest) ← readPort scheme rest
  let authority : Authority := ⟨user, password, host, port⟩
  if host.text.isEmpty ∧ authority.hasCredentials then throw .emptyHost
  return (authority, rest)

/-! ## Path, query and fragment -/

/-- The path after an authority. A special scheme always has one; elsewhere it may be missing. -/
def readPathAfter (kind : SchemeKind) (cs : List Char) : PathBuilder :=
  match cs with
  | [] => if kind = .other then ⟨[], false⟩ else readPath kind ['/'] cs
  | c :: rest =>
    if kind.separates c then readPath kind ['/'] rest
    else if kind = .other ∧ endsPath c then ⟨[], false⟩
    else readPath kind ['/'] cs

/-- The address whose path is read, with what follows its path. -/
def withRest (kind : SchemeKind) (scheme : String) (authority : Option Authority)
    (path : List Char) (cs : List Char) : Url :=
  let rest := cs.dropWhile (!endsPath ·)
  let queryChars := (rest.takeWhile (· != '#')).drop 1
  let fragmentChars := (rest.dropWhile (· != '#')).drop 1
  let querySet := if kind = .other then EscapeSet.query else EscapeSet.specialQuery
  { scheme
    authority
    path := String.ofList path
    query :=
      if rest.head? = some '?' then some (String.ofList (encode querySet queryChars)) else none
    fragment :=
      if rest.contains '#' then some (String.ofList (encode EscapeSet.fragment fragmentChars))
      else none }

/-- The address of a file. -/
def readFile (cs : List Char) : Except Fault Url :=
  let local_ : Authority := ⟨"", none, .name "", none⟩
  let separates := SchemeKind.file.separates
  match cs with
  | a :: b :: rest =>
    if separates a ∧ separates b then
      let hostChars := rest.takeWhile (!endsAuthority .file ·)
      let after := rest.drop hostChars.length
      if isDriveLetter hostChars then
        .ok (withRest .file "file" (some local_) (readPath .file ['/'] rest).text rest)
      else do
        let host ← if hostChars.isEmpty then pure (Host.name "")
          else Host.parse (String.ofList hostChars)
        let path := readPathAfter .file after
        let host := if host = .name "localhost" ∨ path.drive then Host.name "" else host
        return withRest .file "file" (some { local_ with host }) path.text after
    else .ok (withRest .file "file" (some local_) (readPathAfter .file cs).text cs)
  | _ => .ok (withRest .file "file" (some local_) (readPathAfter .file cs).text cs)

/-- The address that a text writes. -/
def parse (s : String) : Except Fault Url := do
  let (scheme, cs) ← readScheme (significant s)
  match SchemeKind.ofScheme scheme with
  | .file => readFile cs
  | .web =>
    let (authority, rest) ← readAuthority scheme .web (cs.dropWhile SchemeKind.web.separates)
    return withRest .web scheme (some authority) (readPathAfter .web rest).text rest
  | .other =>
    match cs with
    | '/' :: '/' :: cs =>
      let (authority, rest) ← readAuthority scheme .other cs
      return withRest .other scheme (some authority) (readPathAfter .other rest).text rest
    | '/' :: rest => return withRest .other scheme none (readPath .other ['/'] rest).text rest
    | _ =>
      let path := encode EscapeSet.controls (cs.takeWhile (!endsPath ·))
      return withRest .other scheme none path cs

end SessionReplay.Url
