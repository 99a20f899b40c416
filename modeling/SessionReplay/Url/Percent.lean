import SessionReplay.Text.Digit
import SessionReplay.Text.Utf8

/-!
# Percent-escapes

A byte may be written as a percent sign and two hexadecimal digits.

* `decodeBytes` — every escape replaced by its byte; a percent sign without two digits stays;
* `encode` — the bytes of the characters that a part of an address does not hold, as escapes;
* `EscapeSet` — the characters that each part of an address does not hold.
-/

namespace SessionReplay.Url

/-! ## Reading -/

/-- The value of a byte that is a hexadecimal digit. -/
def hexValue? (b : UInt8) : Option Nat :=
  Text.hexValue? b.toNat

/-- The byte that a percent sign and two more bytes write. -/
def escapedByte? (sign high low : UInt8) : Option UInt8 :=
  if sign = '%'.toUInt8 then
    match hexValue? high, hexValue? low with
    | some h, some l => some (UInt8.ofNat (16 * h + l))
    | _, _ => none
  else none

/-- Bytes with every escape replaced by its byte. -/
def decodeBytes : List UInt8 → List UInt8
  | b :: high :: low :: rest =>
    match escapedByte? b high low with
    | some byte => byte :: decodeBytes rest
    | none => b :: decodeBytes (high :: low :: rest)
  | bs => bs

/-! ## Writing -/

/-- A hexadecimal digit, in capitals. -/
def hexDigit (n : Nat) : Char :=
  if n < 10 then Char.ofNat (0x30 + n) else Char.ofNat (0x37 + n)

/-- The escape of a byte. -/
def escapeByte (b : UInt8) : List Char :=
  ['%', hexDigit (b.toNat / 16), hexDigit (b.toNat % 16)]

/-- Printable basic characters that a part of an address writes as escapes. Control characters and
characters that are not basic are always escaped. -/
abbrev EscapeSet : Type := List Char

/-- One character of a part of an address. -/
def encodeChar (escaped : EscapeSet) (c : Char) : List Char :=
  if 0x20 ≤ c.toNat ∧ c.toNat < 0x7F ∧ !escaped.contains c then [c]
  else (String.utf8EncodeChar c).flatMap escapeByte

/-- The text of a part of an address. -/
def encode (escaped : EscapeSet) (cs : List Char) : List Char :=
  cs.flatMap (encodeChar escaped)

namespace EscapeSet

/-- Nothing but what is always escaped. -/
def controls : EscapeSet := []

/-- Escaped after a number sign. -/
def fragment : EscapeSet := [' ', '"', '<', '>', '\u0060']

/-- Escaped in a path. -/
def path : EscapeSet := fragment ++ ['#', '?', '\x7b', '\x7d']

/-- Escaped in a user name or a password. -/
def userinfo : EscapeSet := path ++ ['/', ':', ';', '=', '@', '[', '\\', ']', '^', '|']

/-- Escaped after a question mark. -/
def query : EscapeSet := [' ', '"', '#', '<', '>']

/-- Escaped after a question mark where the scheme is one of the web's own. -/
def specialQuery : EscapeSet := query ++ ['\'']

end EscapeSet

end SessionReplay.Url
