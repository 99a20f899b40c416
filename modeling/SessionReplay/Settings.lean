/-!
# Settings of a conversion

* `Settings` — which requests are replayed, how they are batched, and what is checked;
* `SettingsFault`, `SettingsFault.message` — why settings make no script, and the wording;
* `Settings.check` — the first fault of settings.
-/

namespace SessionReplay

/-- The threshold of batches in milliseconds, if none is set. -/
def defaultThreshold : Int := 500

/-- Settings of a conversion: the domains that are kept and dropped, the threshold of batches in
milliseconds, whether statuses are checked, and whether a failed check ends the run. -/
structure Settings where
  only : List String := []
  skip : List String := []
  threshold : Int := defaultThreshold
  checks : Bool := false
  stopOnFailure : Bool := false
  deriving DecidableEq, Repr

/-- Why settings make no script. -/
inductive SettingsFault where
  | negativeThreshold (milliseconds : Int)
  | stopWithoutChecks
  deriving DecidableEq, Repr

/-- The wording of a fault. -/
def SettingsFault.message : SettingsFault → String
  | .negativeThreshold milliseconds =>
    "batch threshold must be non-negative, got " ++ toString milliseconds ++ " ms"
  | .stopWithoutChecks => "return on failed check requires status code checks to be enabled"

namespace Settings

/-- The first fault of settings. -/
def check (settings : Settings) : Except SettingsFault Unit :=
  if settings.threshold < 0 then .error (.negativeThreshold settings.threshold)
  else if settings.stopOnFailure ∧ !settings.checks then .error .stopWithoutChecks
  else .ok ()

/-- The nanoseconds of a millisecond. -/
def perMillisecond : Nat := 1000000

/-- The threshold of batches in nanoseconds. -/
def gapThreshold (settings : Settings) : Int :=
  max settings.threshold 0 * perMillisecond

end Settings

end SessionReplay
