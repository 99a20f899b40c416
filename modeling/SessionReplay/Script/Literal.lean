import SessionReplay.Text.Blank
import SessionReplay.Text.Quoted

/-!
# String literals

* `Literal.text` — a text as a literal between double quotes, which holds no control character and
  no line end, and which would not start a substitution in a template.
-/

namespace SessionReplay.Script.Literal

/-- The four hexadecimal digits of a character. -/
def fourDigits (c : Char) : List Char :=
  let digits := (Text.hexText c.toNat).toList
  List.replicate (4 - digits.length) '0' ++ digits

/-- One character of a literal. -/
def escapedChar (c : Char) : List Char :=
  if c = '"' ∨ c = '\\' then ['\\', c]
  else if c = '\n' then ['\\', 'n']
  else if c = '\r' then ['\\', 'r']
  else if c = '\t' then ['\\', 't']
  else if Text.isControl c ∨ c = '\u2028' ∨ c = '\u2029' then ['\\', 'u'] ++ fourDigits c
  else [c]

/-- The characters of a literal. A dollar sign before a brace is escaped. -/
def escaped : List Char → List Char
  | [] => []
  | c :: cs =>
    (if c = '$' ∧ cs.head? = some '\x7b' then ['\\', '$'] else escapedChar c) ++ escaped cs

/-- A text as a literal. -/
def text (s : String) : String :=
  "\"" ++ String.ofList (escaped s.toList) ++ "\""

end SessionReplay.Script.Literal
