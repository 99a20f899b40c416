import SessionReplay.Idna.Mapping
import SessionReplay.Idna.Punycode
import SessionReplay.Text.Blank
import SessionReplay.Unicode.Direction
import SessionReplay.Unicode.Joining
import SessionReplay.Unicode.Mark
import SessionReplay.Unicode.Normal

/-!
# Internationalised domain names

The basic form of a domain name: characters are mapped and composed, the name is split at its full
stops, and each label that is not basic is written in Punycode. A label that comes in Punycode is
read and has to be what mapping would leave unchanged.

* `toAscii?` — the basic form; `none` if the name is refused;
* `Label` — a label with the way in which it came;
* `joinersAllowed`, `directionAllowed` — the context of invisible joiners, and the rule for names
  with letters written from right to left.
-/

namespace SessionReplay.Idna

open SessionReplay.Unicode

/-- The sign before a label in Punycode. -/
def punycodeSign : List Char := ['x', 'n', '-', '-']

/-- The longest label that is written in Punycode, and the longest that is read. -/
def longestLabel : Nat × Nat := (1000, 2000)

/-! ## Mapping -/

/-- The characters that stand for one character of a name. White space beyond the basic characters
counts as the space. -/
def mapChar? (c : Char) : Option (List Char) :=
  if c.toNat < 0x80 then some [c.toLower]
  else if Text.isBlank c then some [' ']
  else mapping? c

/-- The mapped and composed form of a name. -/
def mapName? (cs : List Char) : Option (List Char) :=
  (cs.mapM mapChar?).map fun parts => normalize parts.flatten

/-- Basic characters that no mapped name holds: capitals, control characters, the space and the
signs that delimit the parts of an address. -/
def isForbidden (c : Char) : Bool :=
  c.isUpper || c.toNat ≤ 0x20 || c.toNat == 0x7F ||
    ['#', '%', '/', ':', '<', '>', '?', '@', '[', '\\', ']', '^', '|'].contains c

/-! ## The context of joiners -/

/-- The nearest character that is not looked through joins in one of the ways `types`. -/
def joinsNext (types : List Joining) (cs : List Char) : Bool :=
  match (cs.map joining).dropWhile (· == .transparent) with
  | [] => false
  | type :: _ => types.contains type

/-- An invisible joiner stands after a virama, or (the non-joiner) between letters that would
join. `before` holds the characters before, nearest first. -/
def joinerAllowed (before : List Char) (c : Char) (rest : List Char) : Bool :=
  (match before with | d :: _ => isVirama d | [] => false) ||
    (c == '\u200c' && joinsNext [.left, .dual] before && joinsNext [.right, .dual] rest)

/-- Every invisible joiner of a label stands in its context. -/
def joinersAllowed (before : List Char) : List Char → Bool
  | [] => true
  | c :: rest =>
    (if c == '\u200c' || c == '\u200d' then joinerAllowed before c rest else true) &&
      joinersAllowed (c :: before) rest

/-! ## Labels with letters from right to left -/

/-- A character that makes a name one with letters from right to left. -/
def isRightToLeft (c : Char) : Bool :=
  c.toNat ≥ 0x590 && [.rightToLeft, .arabicLetter, .arabicNumber].contains (direction c)

/-- The directional rule for one label, by the classes of its characters. -/
def directionsAllowed (classes : List Direction) : Bool :=
  let trailing := classes.reverse.dropWhile (· == .nonspacingMark)
  match classes, trailing with
  | [], _ => true
  | _, [] => false
  | first :: _, last :: _ =>
    let neutral : List Direction :=
      [.europeanNumber, .europeanSeparator, .commonSeparator, .europeanTerminator,
        .otherNeutral, .boundaryNeutral, .nonspacingMark]
    if first == .leftToRight then
      classes.all (Direction.leftToRight :: neutral).contains &&
        [.leftToRight, .europeanNumber].contains last
    else if first == .rightToLeft || first == .arabicLetter then
      classes.all
          ([.rightToLeft, .arabicLetter, .arabicNumber] ++ neutral : List Direction).contains &&
        [.rightToLeft, .arabicLetter, .europeanNumber, .arabicNumber].contains last &&
        !(classes.contains .europeanNumber && classes.contains .arabicNumber)
    else false

/-- The directional rule for one label. -/
def directionAllowed (label : List Char) : Bool :=
  directionsAllowed (label.map direction)

/-! ## Labels -/

/-- A text cut at every full stop. -/
def splitLabels : List Char → List (List Char)
  | [] => [[]]
  | c :: rest =>
    if c = '.' then [] :: splitLabels rest
    else
      match splitLabels rest with
      | [] => [[c]]
      | label :: labels => (c :: label) :: labels

/-- Labels with full stops between them. -/
def joinLabels : List (List Char) → List Char
  | [] => []
  | [label] => label
  | label :: labels => label ++ '.' :: joinLabels labels

/-- A label that is not basic is well formed. -/
def labelAllowed (label : List Char) : Bool :=
  !(match label with | c :: _ => isMark c | [] => false) && joinersAllowed [] label

/-- The readable form of a mapped label: a label in Punycode is read, and must be one that mapping
leaves unchanged. -/
def readLabel? (label : List Char) : Option (List Char) :=
  if punycodeSign.isPrefixOf label then do
    let text := label.drop 4
    if text.length > longestLabel.2 then none
    let read ← Punycode.decode text
    let mapped ← mapName? read
    if mapped = read ∧ !read.all Punycode.isBasic ∧ labelAllowed read then some read else none
  else if label.all Punycode.isBasic then some label
  else if labelAllowed label then some label
  else none

/-- The basic form of a readable label. -/
def writeLabel? (label : List Char) : Option (List Char) :=
  if label.all Punycode.isBasic then some label
  else if label.length > longestLabel.1 then none
  else some (punycodeSign ++ Punycode.encode label)

/-- The basic form of a domain name, or `none` if the name is refused. -/
def toAscii? (name : List Char) : Option (List Char) := do
  let mapped ← mapName? name
  if mapped.any isForbidden then none
  let labels ← (splitLabels mapped).mapM readLabel?
  if labels.flatten.any isRightToLeft ∧ !labels.all directionAllowed then none
  let written ← labels.mapM writeLabel?
  some (joinLabels written)

end SessionReplay.Idna
