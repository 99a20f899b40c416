import SessionReplay.Idna.Domain
import SessionReplay.Text.Digit
import SessionReplay.Url.Fault

/-!
# Internet addresses of four bytes

Up to four numbers with full stops between them, each decimal, octal (after `0`) or hexadecimal
(after `0x`). The last number fills all bytes that the others leave.

* `endsInNumber` — names that are read as such addresses and as nothing else;
* `parse` — the address of a name;
* `text` — its four bytes in decimal.
-/

namespace SessionReplay.Url.Ipv4

open SessionReplay.Idna (splitLabels)

/-- The number that digits to the base `radix` write; `0` if there are none. -/
def number? (radix : Nat) (cs : List Char) : Option Nat :=
  cs.foldlM (fun n c => (Text.digitValue? radix c.toNat).map (radix * n + ·)) 0

/-- One number of an address. -/
def part? : List Char → Option Nat
  | [] => none
  | '0' :: 'x' :: digits => number? 16 digits
  | '0' :: 'X' :: digits => number? 16 digits
  | '0' :: d :: digits => number? 8 (d :: digits)
  | digits => number? 10 digits

/-- The labels of a name without the empty one after a full stop at the end. -/
def labels (name : List Char) : List (List Char) :=
  let all := splitLabels name
  if all.getLast? = some [] then all.dropLast else all

/-- A name whose last label is a number, or consists of decimal digits, is read as an address. -/
def endsInNumber (name : List Char) : Bool :=
  match (labels name).getLast? with
  | none => false
  | some last => (!last.isEmpty && last.all Char.isDigit) || (part? last).isSome

/-- The address of a name. -/
def parse (name : List Char) : Except Fault Nat :=
  match (labels name).mapM part? with
  | none => .error .ipv4
  | some parts =>
    let count := parts.length
    match parts.getLast? with
    | none => .error .ipv4
    | some last =>
      let front := parts.dropLast
      if count ≤ 4 ∧ front.all (· < 256) ∧ last < Nat.pow 256 (5 - count) then
        .ok (front.foldl (fun n part => 256 * n + part) 0 * Nat.pow 256 (5 - count) + last)
      else .error .ipv4

/-- The text of an address. -/
def text (address : Nat) : String :=
  ".".intercalate
    ([address / 16777216 % 256, address / 65536 % 256, address / 256 % 256, address % 256].map
      toString)

end SessionReplay.Url.Ipv4
