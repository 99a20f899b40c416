import SessionReplay.Text.Digit
import SessionReplay.Toml.Scan

/-!
# Texts of settings files

A text stands between double quotes, and then may hold escapes, or between single quotes, and then
stands for itself. Three quotes of either kind enclose a text of several lines.

* `text` — a text of any of the four kinds;
* `lineText` — a text on one line.
-/

namespace SessionReplay.Toml.Scan

/-! ## Escapes -/

/-- A number of `count` hexadecimal digits, after the digits of `value`. -/
def hexNumber : Nat → Nat → Scan Nat
  | 0, value => return value
  | count + 1, value => do
    let digit ← Text.hexValue? (← next).toNat
    hexNumber count (16 * value + digit)

/-- The character with a number, if there is one. -/
def character (n : Nat) : Scan Char :=
  if h : n.isValidChar then return Char.ofNatAux n h else failure

/-- The character that an escape stands for, after its backslash. -/
def escape : Scan Char := do
  let c ← next
  if c = 'u' then character (← hexNumber 4 0)
  else if c = 'U' then character (← hexNumber 8 0)
  else
    [('b', '\x08'), ('t', '\t'), ('n', '\n'), ('f', '\x0c'), ('r', '\r'), ('"', '"'),
      ('\\', '\\')].lookup c

/-! ## One line -/

/-- A character that stands for itself between given quotes. -/
def isPlain (quote c : Char) : Bool :=
  isWritten c && c != quote

/-- The characters up to the closing double quote, at most as many as the first argument says. -/
def quotedBody : Nat → Scan (List Char)
  | 0 => failure
  | steps + 1 => do
    let c ← next
    if c = '"' then return []
    else if c = '\\' then
      let c ← escape
      return c :: (← quotedBody steps)
    else if isPlain '"' c then return c :: (← quotedBody steps)
    else failure

/-- A text between double quotes. -/
def quotedText : Scan (List Char) := do
  sign '"'
  quotedBody (← get).length

/-- A text between single quotes. -/
def literalText : Scan (List Char) := do
  sign '\''
  let content ← takeWhile (isPlain '\'')
  sign '\''
  return content

/-- A text on one line. -/
def lineText : Scan String :=
  String.ofList <$> (quotedText <|> literalText)

/-! ## Several lines -/

/-- A backslash at the end of a line and all blanks and line ends after it, without the
backslash. -/
def joinedLine : Scan Unit := do
  blanks
  newline
  drop dropLines

/-- Closing quotes: three, and up to two before them that belong to the text. -/
def closing? (quote : Char) : Scan (Option (List Char)) := do
  let quotes := (← get).takeWhile (· == quote)
  if quotes.length < 3 then return none
  else
    let kept := min quotes.length 5 - 3
    modify (·.drop (kept + 3))
    return some (List.replicate kept quote)

/-- One character of a text of several lines. -/
def lineCharacter : Scan Char := do
  let c ← next
  if c = '\n' then return c
  else if c = '\r' then
    sign '\n'
    return '\n'
  else if isWritten c then return c
  else failure

/-- What the next characters between double quotes stand for. -/
def quotedPiece : Scan (List Char) := do
  if (← peek) = some '\\' then
    sign '\\'
    (do joinedLine; return []) <|> (do return [← escape])
  else return [← lineCharacter]

/-- The characters up to the closing quotes, in at most as many pieces as the first argument
says. -/
def multilineBody (quote : Char) (piece : Scan (List Char)) : Nat → Scan (List Char)
  | 0 => failure
  | steps + 1 => do
    match ← closing? quote with
    | some kept => return kept
    | none =>
      let content ← piece
      return content ++ (← multilineBody quote piece steps)

/-- A text of several lines; a line end right after the opening quotes does not count. -/
def multiline (quote : Char) (piece : Scan (List Char)) : Scan (List Char) := do
  word (String.ofList [quote, quote, quote])
  newline <|> pure ()
  multilineBody quote piece ((← get).length + 1)

/-- A text of several lines between three double quotes. -/
def quotedLines : Scan (List Char) :=
  multiline '"' quotedPiece

/-- A text of several lines between three single quotes. -/
def literalLines : Scan (List Char) :=
  multiline '\'' (do return [← lineCharacter])

/-- A text of any kind. -/
def text : Scan String := do
  let s ← get
  if "\"\"\"".toList.isPrefixOf s then String.ofList <$> quotedLines
  else if "'''".toList.isPrefixOf s then String.ofList <$> literalLines
  else lineText

end SessionReplay.Toml.Scan
