/-!
# Faults of an address

* `Fault` — why a text is not an address;
* `Fault.message` — the wording of each.
-/

namespace SessionReplay.Url

/-- Why a text is not an address. -/
inductive Fault where
  | noScheme
  | emptyHost
  | port
  | ipv4
  | ipv6
  | domainName
  | domainCharacter
  deriving DecidableEq, Repr

/-- The wording of a fault. -/
def Fault.message : Fault → String
  | .noScheme => "relative URL without a base"
  | .emptyHost => "empty host"
  | .port => "invalid port number"
  | .ipv4 => "invalid IPv4 address"
  | .ipv6 => "invalid IPv6 address"
  | .domainName => "invalid international domain name"
  | .domainCharacter => "invalid domain character"

end SessionReplay.Url
