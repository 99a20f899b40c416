import SessionReplay.Settings

/-!
# Preferences

What a user has chosen once for all conversions.

* `Preferences` — the choices, with their defaults;
* `Preferences.settings` — the settings of a conversion that only follows them;
* `Preferences.defaultText` — the settings file that is written where there is none.
-/

namespace SessionReplay

/-- The file that a script is written to, if none is chosen. -/
def defaultOutput : String := "har-script.js"

/-- The choices of a user: the file that scripts are written to, and the settings of conversions. -/
structure Preferences where
  output : String := defaultOutput
  threshold : Int := defaultThreshold
  checks : Bool := false
  stopOnFailure : Bool := false
  only : List String := []
  skip : List String := []
  deriving DecidableEq, Repr

namespace Preferences

/-- The settings that follow from the preferences alone. -/
def settings (p : Preferences) : Settings :=
  { only := p.only
    skip := p.skip
    threshold := p.threshold
    checks := p.checks
    stopOnFailure := p.stopOnFailure }

/-- The settings file of the defaults. -/
def defaultText : String :=
  "output = \"" ++ defaultOutput ++ "\"\n" ++
    "batch_threshold_ms = " ++ toString defaultThreshold ++ "\n" ++
    "enable_status_code_checks = false\n" ++
    "return_on_failed_check = false\n" ++
    "only = []\n" ++
    "skip = []\n"

end Preferences

end SessionReplay
