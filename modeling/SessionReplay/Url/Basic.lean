import SessionReplay.Url.Host

/-!
# Addresses

* `Authority` — the part of an address that names a host;
* `Url` — an address in its normal form, part by part;
* `Url.text` — its text;
* `Url.hostText?` — the text of its host, if it has one.
-/

namespace SessionReplay

namespace Url

/-- The part of an address that names a host. The user name and the password are escaped; a host
may be empty where the scheme allows it. -/
structure Authority where
  user : String
  password : Option String
  host : Host
  port : Option Nat
  deriving DecidableEq, Repr

/-- A user name or a password is given. -/
def Authority.hasCredentials (a : Authority) : Bool :=
  !a.user.isEmpty || a.password.isSome

/-- The text of an authority. -/
def Authority.text (a : Authority) : String :=
  (if a.hasCredentials then a.user ++ (a.password.elim "" (":" ++ ·)) ++ "@" else "") ++
    a.host.text ++ a.port.elim "" (":" ++ toString ·)

end Url

/-- An address in its normal form. -/
structure Url where
  scheme : String
  authority : Option Url.Authority
  path : String
  query : Option String
  fragment : Option String
  deriving DecidableEq, Repr

namespace Url

/-- The text between the scheme and the path. A path that begins with two slashes and follows no
authority is kept apart from the scheme, so that it does not read as one. -/
def authorityText (u : Url) : String :=
  match u.authority with
  | some authority => "//" ++ authority.text
  | none => if u.path.startsWith "//" then "/." else ""

/-- The text of an address. -/
def text (u : Url) : String :=
  u.scheme ++ ":" ++ u.authorityText ++ u.path ++ u.query.elim "" ("?" ++ ·) ++
    u.fragment.elim "" ("#" ++ ·)

/-- The text of the host, if there is one. -/
def hostText? (u : Url) : Option String :=
  match u.authority with
  | none => none
  | some authority => if authority.host.text.isEmpty then none else some authority.host.text

end Url

end SessionReplay
