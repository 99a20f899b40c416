import SessionReplay.Text.Blank

/-!
# Line comments

* `Comment.flat` — a text on one line, without white space at its ends.
-/

namespace SessionReplay.Script.Comment

/-- A character that a line may not hold becomes a space. -/
def flatChar (c : Char) : Char :=
  if Text.isControl c ∨ c = '\u2028' ∨ c = '\u2029' then ' ' else c

/-- A text on one line. -/
def flat (s : String) : String :=
  Text.trim (String.ofList (s.toList.map flatChar))

end SessionReplay.Script.Comment
