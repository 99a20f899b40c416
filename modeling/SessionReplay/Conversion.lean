import SessionReplay.Batch
import SessionReplay.DomainFilter
import SessionReplay.Headers
import SessionReplay.Script.Comment
import SessionReplay.Script.Render
import SessionReplay.Settings

/-!
# Conversion of sessions

A session becomes a script: its entries are filtered by host, grouped into batches and written as
calls.

* `ConversionError`, `ConversionError.message` — why a session makes no script, and the wording;
* `Conversion.kept` — the entries that pass the filter;
* `Conversion.batches` — the batches of entries;
* `Conversion.script?` — the script of a session;
* `convert` — its text.
-/

namespace SessionReplay

open Capture (Archive Entry Request Tool)

/-- Why a session makes no script. -/
inductive ConversionError where
  | settings (fault : SettingsFault)
  | noHost (index : Nat) (url : Url)
  deriving DecidableEq, Repr

/-- The wording of an error. -/
def ConversionError.message : ConversionError → String
  | .settings fault => fault.message
  | .noHost index url => "entry " ++ toString index ++ ": URL cannot be rendered: " ++ url.text

namespace Conversion

/-! ## Entries -/

/-- The entries from a place on that pass a filter. Every entry must have a host. -/
def keptFrom (allowed : String → Bool) (index : Nat) :
    List Entry → Except ConversionError (List Entry)
  | [] => .ok []
  | entry :: entries =>
    match entry.host? with
    | none => .error (.noHost index entry.request.url)
    | some host => do
      let rest ← keptFrom allowed (index + 1) entries
      return if allowed host then entry :: rest else rest

/-- The entries whose host passes the filter of the settings. -/
def kept (read : HostReader) (settings : Settings) (entries : List Entry) :
    Except ConversionError (List Entry) :=
  keptFrom ((DomainFilter.ofLists read settings.only settings.skip).allows read) 0 entries

/-- The time from the start of one entry to the start of another. -/
def gap (a b : Entry) : Int :=
  Instant.gap a.started b.started

/-- The batches of entries. -/
def batches (settings : Settings) (entries : List Entry) : List (Batch Entry) :=
  Batch.split gap settings.gapThreshold entries

/-! ## Steps -/

/-- What is sent as a body. -/
def payload : Body → Script.Payload
  | .absent => .absent
  | .text content => .text content
  | .form fields => .form fields
  | .omitted reason => .note (Script.Comment.flat reason.message)

/-- The call of a request. -/
def call (request : Request) : Script.Call :=
  { method := Text.asciiUpper request.method
    url := request.url.text
    payload := payload (Body.ofRequest request)
    cookies := request.cookies
    headers := Headers.replayed request.headers (!request.cookies.isEmpty) }

/-- The checks of the entries from a place on. An entry without a status is not checked. -/
def checksFrom (place : Nat) : List Entry → List Script.Check
  | [] => []
  | entry :: entries =>
    let rest := checksFrom (place + 1) entries
    if entry.response.status = 0 then rest else ⟨place, entry.response.status⟩ :: rest

/-- The pause of a batch in whole milliseconds. -/
def pauseMilliseconds (pause : Int) : Nat :=
  pause.toNat / Settings.perMillisecond

/-- The step of a batch. -/
def step (checked : Bool) (batch : Batch Entry) : Script.Step :=
  { pause := batch.pause.map pauseMilliseconds
    calls := batch.items.map fun entry => call entry.request
    checks := if checked then checksFrom 0 batch.items else [] }

/-! ## Notes -/

/-- The note of a tool. -/
def toolNote (label : String) (tool : Tool) : String :=
  label ++ ": " ++ Script.Comment.flat (tool.name ++ " " ++ tool.version)

/-- The notes of a session: its version, creator, browser, comment and pages. -/
def notes (archive : Archive) : List String :=
  (if archive.version.isEmpty then [] else ["Version: " ++ Script.Comment.flat archive.version]) ++
    (archive.creator.map (toolNote "Creator")).toList ++
    (archive.browser.map (toolNote "Browser")).toList ++
    (archive.comment.map Script.Comment.flat).toList ++
    archive.pages.map fun page =>
      "Page: " ++ Script.Comment.flat page.id ++ " - " ++ Script.Comment.flat page.title

/-! ## Scripts -/

/-- The script of a session whose kept entries are given. -/
def scriptOf (archive : Archive) (settings : Settings) (entries : List Entry) : Script :=
  { checked := settings.checks
    stops := settings.stopOnFailure
    notes := notes archive
    steps := (batches settings entries).map (step settings.checks) }

/-- The script of a session. The settings are checked before the entries. -/
def script? (read : HostReader) (archive : Archive) (settings : Settings) :
    Except ConversionError Script := do
  settings.check.mapError .settings
  let entries ← kept read settings archive.entries
  return scriptOf archive settings entries

end Conversion

/-- The text of the script of a session. -/
def convert (archive : Archive) (settings : Settings) : Except ConversionError String :=
  (Conversion.script? Url.Host.reader archive settings).map Script.text

end SessionReplay
