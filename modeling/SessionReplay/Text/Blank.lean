/-!
# White space, control characters and letter case

The character classes that the fields of a capture are cleaned with.

* `isBlank`, `isControl` — white space of any script, and the two blocks of control characters;
* `trim` — the text between the first and the last character that is not blank;
* `asciiLower`, `asciiUpper` — letter case of the twenty-six basic letters only;
* `sameLetters` — equality of texts up to that case.
-/

namespace SessionReplay.Text

/-- White space of any script: the space, the line and paragraph ends, the tabs and the wide and
narrow spaces. Zero-width characters do not count. -/
def isBlank (c : Char) : Bool :=
  let n := c.toNat
  (0x09 ≤ n && n ≤ 0x0D) || n == 0x20 || n == 0x85 || n == 0xA0 || n == 0x1680 ||
    (0x2000 ≤ n && n ≤ 0x200A) || n == 0x2028 || n == 0x2029 || n == 0x202F || n == 0x205F ||
    n == 0x3000

/-- A control character: one below the space, or one from DEL to the end of the second block. -/
def isControl (c : Char) : Bool :=
  let n := c.toNat
  n ≤ 0x1F || (0x7F ≤ n && n ≤ 0x9F)

/-- A list without the items at its end that satisfy `p`. -/
def dropEndWhile {α : Type} (p : α → Bool) (xs : List α) : List α :=
  (xs.reverse.dropWhile p).reverse

/-- The characters between the first and the last one that is not blank. -/
def trimChars (cs : List Char) : List Char :=
  dropEndWhile isBlank (cs.dropWhile isBlank)

/-- A text without the white space at its two ends. -/
def trim (s : String) : String :=
  String.ofList (trimChars s.toList)

/-- A text with the capitals `A` to `Z` made small. -/
def asciiLower (s : String) : String :=
  s.map Char.toLower

/-- A text with the letters `a` to `z` made capital. -/
def asciiUpper (s : String) : String :=
  s.map Char.toUpper

/-- Two texts are equal up to the case of the basic letters. -/
def sameLetters (s t : String) : Bool :=
  asciiLower s == asciiLower t

end SessionReplay.Text
