/-!
# Scanning settings files

* `Scan` — a reader of characters from the front, which may fail;
* `blanks`, `newline`, `lineEnd`, `spacing` — what stands between the words of a settings file.
-/

namespace SessionReplay.Toml

/-- A reader of characters from the front. -/
abbrev Scan : Type → Type := StateT (List Char) Option

namespace Scan

/-- The next character. -/
def next : Scan Char := fun s =>
  match s with
  | [] => none
  | c :: s => some (c, s)

/-- The next character, which stays. -/
def peek : Scan (Option Char) :=
  return (← get).head?

/-- One given character. -/
def sign (c : Char) : Scan Unit := do
  unless (← next) = c do failure

/-- A given word. -/
def word (letters : String) : Scan Unit := do
  unless letters.toList.isPrefixOf (← get) do failure
  modify (·.drop letters.length)

/-- The characters at the front that satisfy `p`. -/
def takeWhile (p : Char → Bool) : Scan (List Char) := fun s =>
  some (s.takeWhile p, s.dropWhile p)

/-- The rest after what a function drops. -/
def drop (f : List Char → List Char) : Scan Unit :=
  modify f

/-- The input is at its end. -/
def atEnd : Scan Unit := do
  unless (← get).isEmpty do failure

/-! ## Between words -/

/-- A blank within a line. -/
def isBlank (c : Char) : Bool :=
  c == ' ' || c == '\t'

/-- Blanks within a line. -/
def blanks : Scan Unit :=
  drop (·.dropWhile isBlank)

/-- The end of a line. -/
def newline : Scan Unit := do
  let c ← next
  if c = '\r' then sign '\n'
  else unless c = '\n' do failure

/-- A character that may be written in a line: the tab, and all but control characters. -/
def isWritten (c : Char) : Bool :=
  c == '\t' || (0x20 ≤ c.toNat && c.toNat != 0x7F)

/-- A comment up to the end of its line, if there is one. -/
def comment : Scan Unit := do
  if (← peek) = some '#' then drop (·.dropWhile isWritten)

/-- The rest of a line, which holds no more than a comment. -/
def lineEnd : Scan Unit := do
  blanks
  comment
  atEnd <|> newline

/-- The characters after blanks, line ends and comments. -/
def dropSpacing : (inComment : Bool) → List Char → List Char
  | _, [] => []
  | _, '\r' :: '\n' :: s => dropSpacing false s
  | inComment, c :: s =>
    if c = '\n' then dropSpacing false s
    else if inComment ∧ isWritten c then dropSpacing true s
    else if !inComment ∧ isBlank c then dropSpacing false s
    else if !inComment ∧ c = '#' then dropSpacing true s
    else c :: s

/-- Blanks, line ends and comments. -/
def spacing : Scan Unit :=
  drop (dropSpacing false)

/-- The characters after blanks and line ends. -/
def dropLines : List Char → List Char
  | '\r' :: '\n' :: s => dropLines s
  | c :: s => if c = '\n' ∨ isBlank c then dropLines s else c :: s
  | [] => []

end Scan

end SessionReplay.Toml
