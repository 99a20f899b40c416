import SessionReplay.Url.Ipv4

/-!
# Internet addresses of eight groups

Groups of up to four hexadecimal digits with colons between them. Two colons in a row stand for
the zeros that are missing, and the last two groups may be written as four decimal bytes.

* `parse` — the eight groups of a text between brackets;
* `text` — the groups in small letters, the longest run of two or more zeros left out.
-/

namespace SessionReplay.Url.Ipv6

/-! ## Reading -/

/-- Up to `limit` hexadecimal digits at the front: how many there are, and their number. -/
def readGroup : Nat → List Char → Nat × Nat → Nat × Nat × List Char
  | 0, cs, (count, n) => (count, n, cs)
  | _ + 1, [], (count, n) => (count, n, [])
  | limit + 1, c :: rest, (count, n) =>
    match Text.hexValue? c.toNat with
    | some d => readGroup limit rest (count + 1, 16 * n + d)
    | none => (count, n, c :: rest)

theorem readGroup_length (limit : Nat) (cs : List Char) (acc : Nat × Nat) :
    (readGroup limit cs acc).2.2.length ≤ cs.length := by
  induction limit generalizing cs acc with
  | zero => exact Nat.le_refl _
  | succ limit ih =>
    match cs, acc with
    | [], _ => exact Nat.le_refl _
    | c :: rest, (count, n) =>
      unfold readGroup
      split
      · exact Nat.le_trans (ih rest _) (Nat.le_succ _)
      · exact Nat.le_refl _

/-- A byte in decimal, without leading zeros. -/
def decimalByte? (cs : List Char) : Option Nat :=
  match cs with
  | [] => none
  | '0' :: _ :: _ => none
  | _ => (Ipv4.number? 10 cs).filter (· < 256)

/-- The two groups that four bytes write. -/
def bytesGroups? (cs : List Char) : Option (List Nat) :=
  match (Idna.splitLabels cs).mapM decimalByte? with
  | some [a, b, c, d] => some [256 * a + b, 256 * c + d]
  | _ => none

/-- The groups that are read so far, latest first, and how many of them come before the zeros that
are left out. The zeros count as one group. -/
structure Reading where
  groups : List Nat
  before : Option Nat

/-- The eight groups, with the missing zeros put in. -/
def Reading.finish (r : Reading) : Except Fault (List Nat) :=
  let groups := r.groups.reverse
  match r.before with
  | some n =>
    .ok (groups.take n ++ List.replicate (8 - groups.length) 0 ++ groups.drop n)
  | none => if groups.length = 8 then .ok groups else .error .ipv6

/-- The groups of the text that is left. -/
def readGroups (r : Reading) : List Char → Except Fault (List Nat)
  | [] => r.finish
  | c :: rest =>
    let count := r.groups.length
    if count = 8 then .error .ipv6
    else if c = ':' then
      if r.before.isSome then .error .ipv6
      else readGroups ⟨0 :: r.groups, some count⟩ rest
    else
      match _h : readGroup 4 (c :: rest) (0, 0) with
      | (0, _, _) => .error .ipv6
      | (_ + 1, n, []) => Reading.finish ⟨n :: r.groups, r.before⟩
      | (_ + 1, n, d :: after) =>
        if d = '.' then
          match if count ≤ 6 then bytesGroups? (c :: rest) else none with
          | some groups => Reading.finish ⟨groups.reverse ++ r.groups, r.before⟩
          | none => .error .ipv6
        else if d = ':' ∧ after ≠ [] then readGroups ⟨n :: r.groups, r.before⟩ after
        else .error .ipv6
termination_by cs => cs.length
decreasing_by
  · simp
  · have := readGroup_length 4 (c :: rest) (0, 0)
    rw [_h] at this
    simp only [List.length_cons] at this ⊢
    omega

/-- The groups of the text between the brackets. -/
def parse (cs : List Char) : Except Fault (List Nat) :=
  match cs with
  | ':' :: ':' :: rest => readGroups ⟨[0], some 0⟩ rest
  | ':' :: _ => .error .ipv6
  | [] => .error .ipv6
  | [_] => .error .ipv6
  | _ => readGroups ⟨[], none⟩ cs

/-! ## Writing -/

/-- The number of zeros at the front. -/
def leadingZeros (groups : List Nat) : Nat :=
  (groups.takeWhile (· == 0)).length

/-- The place and the length of the longest run of zeros, the first of several. `place` is the
place of the groups in the address. -/
def longestZeros (place : Nat) : List Nat → Nat × Nat
  | [] => (place, 0)
  | group :: groups =>
    let here := leadingZeros (group :: groups)
    let later := longestZeros (place + 1) groups
    if later.2 > here then later else (place, here)

/-- Groups in hexadecimal, with colons between them. -/
def groupsText (groups : List Nat) : String :=
  ":".intercalate (groups.map fun group => String.ofList (Nat.toDigits 16 group))

/-- The text of an address, without brackets. -/
def text (groups : List Nat) : String :=
  let (place, length) := longestZeros 0 groups
  if length < 2 then groupsText groups
  else groupsText (groups.take place) ++ "::" ++ groupsText (groups.drop (place + length))

end SessionReplay.Url.Ipv6
