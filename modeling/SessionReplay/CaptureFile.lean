import SessionReplay.Disk.Basic
import SessionReplay.Problem

/-!
# Capture files

* `CaptureFile.convert` — the script of the session that a file holds.
-/

namespace SessionReplay.CaptureFile

variable {m : Type → Type} [Monad m] [Disk m]

/-- The session that a file holds. -/
def read (path : String) : Attempt m Capture.Archive := do
  let stream ← Attempt.file (.open path) (Disk.stream path)
  Attempt.ofExcept (.decode path) (Capture.Archive.decodeStream stream)

/-- The script of the session that a file holds. -/
def convert (path : String) (settings : Settings) : Attempt m String := do
  let archive ← read path
  Attempt.ofExcept .convert (SessionReplay.convert archive settings)

end SessionReplay.CaptureFile
