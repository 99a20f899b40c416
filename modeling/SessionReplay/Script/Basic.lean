import SessionReplay.Body.Basic

/-!
# Scripts

A script says what is sent, in which batches, and what is checked; its text is written by
`Script.text`.

* `Call`, `Payload` — one request of a batch, and its body;
* `Check` — the status that the response to a call of a batch must have;
* `Step` — a pause, a batch of calls and the checks after it;
* `Script` — notes and steps.
-/

namespace SessionReplay

namespace Script

open Capture (NamedValue)

/-- What a call sends: nothing, a text, the fields of a form, or nothing but a note why. -/
inductive Payload where
  | absent
  | text (content : String)
  | form (fields : List (String × String))
  | note (content : String)
  deriving DecidableEq, Repr

/-- One request of a batch. -/
structure Call where
  method : String
  url : String
  payload : Payload
  cookies : List NamedValue
  headers : List NamedValue
  deriving DecidableEq, Repr

/-- The response to the call at a place of a batch must have a status. -/
structure Check where
  place : Nat
  status : Nat
  deriving DecidableEq, Repr

/-- A pause in milliseconds, a batch and the checks of its responses. -/
structure Step where
  pause : Option Nat
  calls : List Call
  checks : List Check
  deriving DecidableEq, Repr

end Script

/-- A script: whether it checks statuses, whether a failed check ends a run, notes about the
session, and the steps of a run. -/
structure Script where
  checked : Bool
  stops : Bool
  notes : List String
  steps : List Script.Step
  deriving DecidableEq, Repr

end SessionReplay
