/-!
# Faults of file operations

* `Disk.Fault` — why a file operation fails;
* `Disk.Fault.code?`, `Disk.Fault.message` — the number that the system gives it, and the wording;
* `Disk.Read`, `Disk.Stream` — what one read of a file gives, and what comes of a file that is read
  from its start.
-/

namespace SessionReplay.Disk

/-- Why a file operation fails. -/
inductive Fault where
  | noEntry
  | taken
  | notFolder
  | isFolder
  | busy
  | notText
  | other (code : Option Nat) (reason : String)
  deriving DecidableEq, Repr

namespace Fault

/-- The number that the system gives to a fault. -/
def code? : Fault → Option Nat
  | noEntry => some 2
  | busy => some 16
  | taken => some 17
  | notFolder => some 20
  | isFolder => some 21
  | notText => none
  | other code _ => code

/-- The wording of a fault, without its number. -/
def reason : Fault → String
  | noEntry => "No such file or directory"
  | busy => "Device or resource busy"
  | taken => "File exists"
  | notFolder => "Not a directory"
  | isFolder => "Is a directory"
  | notText => "stream did not contain valid UTF-8"
  | other _ reason => reason

/-- The wording of a fault. -/
def message (fault : Fault) : String :=
  match fault.code? with
  | some code => fault.reason ++ " (os error " ++ toString code ++ ")"
  | none => fault.reason

end Fault

/-- What one read of a file gives: the bytes that come next, of which there are none at the end, an
interruption, or a fault. -/
inductive Read where
  | piece (bytes : List UInt8)
  | interrupted
  | failed (fault : Fault)
  deriving DecidableEq, Repr

/-- What comes of a file: its pieces, and the fault if it breaks off. -/
structure Stream where
  pieces : List (List UInt8)
  failure : Option Fault
  deriving DecidableEq, Repr

/-- What comes of reads up to the end of the file or a fault. After an interruption the file is read
on. -/
def Stream.ofReads : List Read → Stream
  | [] => ⟨[], none⟩
  | .piece bytes :: reads =>
    if bytes.isEmpty then ⟨[], none⟩
    else
      let stream := ofReads reads
      { stream with pieces := bytes :: stream.pieces }
  | .interrupted :: reads => ofReads reads
  | .failed fault :: _ => ⟨[], some fault⟩

end SessionReplay.Disk
