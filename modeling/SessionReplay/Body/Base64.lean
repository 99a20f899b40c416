/-!
# Base64

Three bytes are written as four signs of six bits each; one or two bytes at the end as two or three
signs and as many equals signs as are lacking.

* `encode` — the written form of bytes;
* `decode` — the bytes of a written form; anything but the written form of some bytes is a fault;
* `Fault`, `Fault.message` — which fault, and the wording.
-/

namespace SessionReplay.Base64

/-- Why bytes are no written form. Places are counted from the start. -/
inductive Fault where
  | sign (byte : UInt8) (place : Nat)
  | length (count : Nat)
  | lastSign (byte : UInt8) (place : Nat)
  | padding
  deriving DecidableEq, Repr

/-- The wording of a fault. -/
def Fault.message : Fault → String
  | .sign byte place =>
    "Invalid symbol " ++ toString byte.toNat ++ ", offset " ++ toString place ++ "."
  | .length count => "Invalid input length: " ++ toString count
  | .lastSign byte place =>
    "Invalid last symbol " ++ toString byte.toNat ++ ", offset " ++ toString place ++ "."
  | .padding => "Invalid padding"

/-! ## Signs -/

/-- The sign that fills up the last group. -/
def pad : UInt8 := '='.toUInt8

/-- The sign of six bits. -/
def sign (value : Nat) : UInt8 :=
  UInt8.ofNat <|
    if value < 26 then 0x41 + value
    else if value < 52 then 0x61 + (value - 26)
    else if value < 62 then 0x30 + (value - 52)
    else if value = 62 then 0x2B
    else 0x2F

/-- The six bits of a sign. -/
def value? (byte : UInt8) : Option Nat :=
  let n := byte.toNat
  if 0x41 ≤ n ∧ n ≤ 0x5A then some (n - 0x41)
  else if 0x61 ≤ n ∧ n ≤ 0x7A then some (n - 0x61 + 26)
  else if 0x30 ≤ n ∧ n ≤ 0x39 then some (n - 0x30 + 52)
  else if n = 0x2B then some 62
  else if n = 0x2F then some 63
  else none

/-! ## Writing -/

/-- The written form of bytes. -/
def encode : List UInt8 → List UInt8
  | a :: b :: c :: rest =>
    let n := 65536 * a.toNat + 256 * b.toNat + c.toNat
    sign (n / 262144) :: sign (n / 4096 % 64) :: sign (n / 64 % 64) :: sign (n % 64) :: encode rest
  | [a, b] =>
    let n := 1024 * a.toNat + 4 * b.toNat
    [sign (n / 4096), sign (n / 64 % 64), sign (n % 64), pad]
  | [a] => [sign (a.toNat / 4), sign (a.toNat % 4 * 16), pad, pad]
  | [] => []

/-! ## Reading -/

/-- The six bits of a sign at a place. -/
def valueAt (place : Nat) (byte : UInt8) : Except Fault Nat :=
  match value? byte with
  | some value => .ok value
  | none => .error (.sign byte place)

/-- The signs of the last group, before the padding; what follows a padding sign must be padding.
The padding has no place among the first two signs. -/
def lastValues (start : Nat) : Nat → List UInt8 → Except Fault (List Nat)
  | _, [] => .ok []
  | index, byte :: rest =>
    if byte = pad then
      if index < 2 then .error (.sign pad (start + index))
      else if rest.all (· == pad) then .ok []
      else .error (.sign pad (start + index))
    else do
      let value ← valueAt (start + index) byte
      let values ← lastValues start (index + 1) rest
      return value :: values

/-- The bytes of the last group. Bits that no byte takes must be zero. -/
def lastGroup (start : Nat) (group : List UInt8) : Except Fault (List UInt8) := do
  let values ← lastValues start 0 group
  match values with
  | [] => if group.isEmpty then return [] else throw (.length start)
  | [_] => throw (.length (start + 1))
  | _ =>
    if group.length ≠ 4 then throw .padding
    let n := values.foldl (fun n value => 64 * n + value) 0
    let spare := 6 * values.length % 8
    let unit := Nat.pow 2 spare
    if n % unit ≠ 0 then
      throw (.lastSign (group.getD (values.length - 1) 0) (start + values.length - 1))
    let bytes := n / unit
    let count := 6 * values.length / 8
    return (List.range count).map fun i => UInt8.ofNat (bytes / Nat.pow 256 (count - 1 - i))

/-- The bytes of the groups from a place on. -/
def decodeFrom (start : Nat) : List UInt8 → Except Fault (List UInt8)
  | a :: b :: c :: d :: e :: rest => do
    let i ← valueAt start a
    let j ← valueAt (start + 1) b
    let k ← valueAt (start + 2) c
    let l ← valueAt (start + 3) d
    let n := 262144 * i + 4096 * j + 64 * k + l
    let bytes ← decodeFrom (start + 4) (e :: rest)
    return UInt8.ofNat (n / 65536) :: UInt8.ofNat (n / 256) :: UInt8.ofNat n :: bytes
  | group => lastGroup start group

/-- The bytes of a written form. A foreign sign that makes up the last group alone is found
first. -/
def decode (text : List UInt8) : Except Fault (List UInt8) :=
  match text.getLast? with
  | some byte =>
    if text.length % 4 = 1 ∧ byte ≠ pad ∧ (value? byte).isNone then
      .error (.sign byte (text.length - 1))
    else decodeFrom 0 text
  | none => .ok []

end SessionReplay.Base64
