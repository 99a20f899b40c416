import SessionReplay.Unicode.Unprintable

/-!
# Quoted text in messages

* `quoted` — a text between double quotes, with the quote, the backslash and every character that
  is not shown as itself escaped.
-/

namespace SessionReplay.Text

/-- The hexadecimal digits of a number, without leading zeros. -/
def hexText (n : Nat) : String :=
  String.ofList (Nat.toDigits 16 n)

/-- One character inside quotes. -/
def quotedChar (c : Char) : String :=
  if c = '"' then "\\\""
  else if c = '\\' then "\\\\"
  else if c = '\t' then "\\t"
  else if c = '\r' then "\\r"
  else if c = '\n' then "\\n"
  else if c = '\x00' then "\\0"
  else if Unicode.isUnprintable c then "\\u\x7b" ++ hexText c.toNat ++ "\x7d"
  else c.toString

/-- A text as messages show it. -/
def quoted (s : String) : String :=
  "\"" ++ String.join (s.toList.map quotedChar) ++ "\""

end SessionReplay.Text
