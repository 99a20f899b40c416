import SessionReplay.Text.Blank
import SessionReplay.Url.Host

/-!
# Domain filters

A filter keeps the hosts that lie in the domains of one list and in none of another. Hosts and
domains are compared in a normal form, which a function that reads hosts gives.

* `DomainFilter` — the two lists in their normal form;
* `hostMatches` — a host lies in a domain;
* `DomainFilter.ofLists`, `DomainFilter.allows` — the filter of two written lists, and its answer.
-/

namespace SessionReplay

/-- The normal text of the host that a text writes, if it writes one. -/
abbrev HostReader : Type := String → Option String

/-- The hosts of addresses. -/
def Url.Host.reader : HostReader := fun s => (Url.Host.parse s).toOption.map Url.Host.text

/-- The domains that are kept, all if there are none, and those that are dropped. -/
structure DomainFilter where
  only : List String
  skip : List String
  deriving DecidableEq, Repr

/-- A host is a domain or ends with a dot and the domain. -/
def hostMatches (host domain : String) : Bool :=
  host == domain || ('.' :: domain.toList).isSuffixOf host.toList

namespace DomainFilter

/-- A text without the dots at its end. -/
def withoutEndDots (s : String) : String :=
  String.ofList (Text.dropEndWhile (· == '.') s.toList)

/-- A text without one dot at its start. -/
def withoutFirstDot (s : String) : String :=
  match s.toList with
  | '.' :: cs => String.ofList cs
  | _ => s

/-- The normal form of what is left of a host or domain: its host text, or else small letters. -/
def hostText (read : HostReader) (s : String) : String :=
  if s.isEmpty then "" else (read s).getD (Text.asciiLower s)

/-- The normal form of a host. -/
def normalHost (read : HostReader) (host : String) : String :=
  hostText read (withoutEndDots host)

/-- The normal form of a domain in a list. -/
def normalDomain (read : HostReader) (domain : String) : String :=
  hostText read (withoutEndDots (withoutFirstDot (Text.trim domain)))

/-- The domains of a list; those that are empty do not count. -/
def normalDomains (read : HostReader) (domains : List String) : List String :=
  (domains.map (normalDomain read)).filter fun d => !d.isEmpty

/-- The filter of two lists. -/
def ofLists (read : HostReader) (only skip : List String) : DomainFilter :=
  ⟨normalDomains read only, normalDomains read skip⟩

/-- The filter keeps a host. -/
def allows (read : HostReader) (filter : DomainFilter) (host : String) : Bool :=
  let host := normalHost read host
  (filter.only.isEmpty || filter.only.any (hostMatches host)) &&
    !filter.skip.any (hostMatches host)

end DomainFilter

end SessionReplay
