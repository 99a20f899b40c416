import SessionReplay.Idna.Domain
import SessionReplay.Url.Ipv6
import SessionReplay.Url.Percent

/-!
# Hosts

* `Host` — a name, or an internet address of one of the two kinds;
* `Host.parse` — the host that a text writes: an address in brackets, or a name whose escapes are
  read and which is brought into its basic form;
* `Host.parseOpaque` — the host of an address whose scheme is not one of the web's own: any text
  without delimiters;
* `Host.text` — the normal text of a host.
-/

namespace SessionReplay.Url

/-- A host. -/
inductive Host where
  | name (text : String)
  | ipv4 (address : Nat)
  | ipv6 (groups : List Nat)
  deriving DecidableEq, Repr

namespace Host

/-- The normal text of a host. -/
def text : Host → String
  | name text => text
  | ipv4 address => Ipv4.text address
  | ipv6 groups => "[" ++ Ipv6.text groups ++ "]"

/-- An address in brackets, or else what `other` reads. -/
def bracketed (other : List Char → Except Fault Host) (cs : List Char) : Except Fault Host :=
  match cs with
  | '[' :: rest =>
    if rest.getLast? = some ']' then (Ipv6.parse rest.dropLast).map ipv6 else .error .ipv6
  | _ => other cs

/-- A host name in its basic form, or the address of four bytes that it writes. -/
def ofAscii (cs : List Char) : Except Fault Host :=
  if cs.isEmpty then .error .emptyHost
  else if Ipv4.endsInNumber cs then (Ipv4.parse cs).map ipv4
  else .ok (name (String.ofList cs))

/-- A host name whose escapes are read. -/
def parseName (cs : List Char) : Except Fault Host :=
  match Text.ofBytes? (decodeBytes (Text.bytes (String.ofList cs))) with
  | none => .error .domainName
  | some decoded =>
    match Idna.toAscii? decoded.toList with
    | none => .error .domainName
    | some ascii => ofAscii ascii

/-- The host that a text writes. -/
def parse (s : String) : Except Fault Host :=
  bracketed parseName s.toList

/-- Characters that no host holds. -/
def isDelimiter (c : Char) : Bool :=
  ['\x00', '\t', '\n', '\r', ' ', '#', '/', ':', '<', '>', '?', '@', '[', '\\', ']', '^',
    '|'].contains c

/-- A host that is kept as it is written. -/
def opaqueName (cs : List Char) : Except Fault Host :=
  if cs.any isDelimiter then .error .domainCharacter
  else .ok (name (String.ofList (encode EscapeSet.controls cs)))

/-- The host that a text writes where the scheme is not one of the web's own. -/
def parseOpaque (s : String) : Except Fault Host :=
  bracketed opaqueName s.toList

end Host

end SessionReplay.Url
