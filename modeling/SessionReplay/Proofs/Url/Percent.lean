import SessionReplay.Proofs.Text.Utf8
import SessionReplay.Url.Percent

/-!
# Characters outside of escapes

* `decodeBytes_append_cons`: a byte that no escape holds splits what is read;
* `decodeChars?` — a text whose escapes are read;
* **`decodeChars?_append_cons`**: a character whose bytes no escape holds splits it;
* `decodeChars?_of_ne`: a text without a percent sign is read as it is.
-/

namespace SessionReplay.Url

variable {b : UInt8} {c : Char} {cs ds text : List Char} {bs xs ys : List UInt8}

/-- A byte that no escape holds: neither the percent sign nor a hexadecimal digit. -/
def IsOutside (b : UInt8) : Prop :=
  b ≠ '%'.toUInt8 ∧ hexValue? b = none

theorem escapedByte?_of_ne {high low : UInt8} (h : b ≠ '%'.toUInt8) :
    escapedByte? b high low = none := if_neg h

theorem escapedByte?_of_high {sign low : UInt8} (h : hexValue? b = none) :
    escapedByte? sign b low = none := by
  unfold escapedByte?
  split
  · rw [h]
  · rfl

theorem escapedByte?_of_low {sign high : UInt8} (h : hexValue? b = none) :
    escapedByte? sign high b = none := by
  unfold escapedByte?
  split
  · rw [h]
    cases hexValue? high <;> rfl
  · rfl

theorem decodeBytes_cons_of_ne (h : b ≠ '%'.toUInt8) (bs : List UInt8) :
    decodeBytes (b :: bs) = b :: decodeBytes bs := by
  match bs with
  | [] => rfl
  | [_] => rfl
  | high :: low :: rest => rw [decodeBytes, escapedByte?_of_ne h]

theorem decodeBytes_cons_cons (h : hexValue? b = none) (x : UInt8) (bs : List UInt8) :
    decodeBytes (x :: b :: bs) = x :: decodeBytes (b :: bs) := by
  cases bs with
  | nil => rfl
  | cons low rest => rw [decodeBytes, escapedByte?_of_high h]

/-- A byte that no escape holds splits what is read. -/
theorem decodeBytes_append_cons (h : IsOutside b) (xs ys : List UInt8) :
    decodeBytes (xs ++ b :: ys) = decodeBytes xs ++ b :: decodeBytes ys := by
  induction xs using decodeBytes.induct with
  | case1 sign high low rest byte hbyte ih =>
    rw [List.cons_append, List.cons_append, List.cons_append, decodeBytes, decodeBytes, hbyte]
    exact congrArg (byte :: ·) ih
  | case2 sign high low rest hnone ih =>
    rw [List.cons_append, List.cons_append, List.cons_append, decodeBytes, decodeBytes, hnone]
    exact congrArg (sign :: ·) ih
  | case3 xs hshort =>
    match xs with
    | [] => exact decodeBytes_cons_of_ne h.1 ys
    | [x] =>
      rw [List.singleton_append, decodeBytes_cons_cons h.2, decodeBytes_cons_of_ne h.1]
      rfl
    | [x, y] =>
      rw [List.cons_append, List.cons_append, List.nil_append, decodeBytes,
        escapedByte?_of_low h.2, decodeBytes_cons_cons h.2, decodeBytes_cons_of_ne h.1]
      rfl
    | sign :: high :: low :: rest => exact absurd rfl (hshort sign high low rest)

theorem decodeBytes_append_of_ne (h : ∀ b ∈ bs, b ≠ '%'.toUInt8) (ys : List UInt8) :
    decodeBytes (bs ++ ys) = bs ++ decodeBytes ys := by
  induction bs with
  | nil => rfl
  | cons b bs ih =>
    rw [List.forall_mem_cons] at h
    rw [List.cons_append, decodeBytes_cons_of_ne h.1, ih h.2, List.cons_append]

theorem decodeBytes_append_append (hne : bs ≠ []) (h : ∀ b ∈ bs, IsOutside b)
    (xs ys : List UInt8) :
    decodeBytes (xs ++ (bs ++ ys)) = decodeBytes xs ++ (bs ++ decodeBytes ys) := by
  cases bs with
  | nil => exact absurd rfl hne
  | cons b bs =>
    rw [List.forall_mem_cons] at h
    rw [List.cons_append, decodeBytes_append_cons h.1,
      decodeBytes_append_of_ne fun b hb => (h.2 b hb).1, List.cons_append]

/-! ## Characters -/

/-- A text whose escapes are read, unless the bytes then are those of no text. -/
def decodeChars? (cs : List Char) : Option (List Char) :=
  (Text.ofBytes? (decodeBytes (Text.bytes (String.ofList cs)))).map String.toList

theorem decodeChars?_eq_some_iff : decodeChars? cs = some ds ↔
    ds.flatMap String.utf8EncodeChar = decodeBytes (cs.flatMap String.utf8EncodeChar) := by
  rw [decodeChars?, Option.map_eq_some_iff, Text.bytes_eq_flatMap, String.toList_ofList]
  simp only [Text.ofBytes?_eq_some_iff, Text.bytes_eq_flatMap]
  constructor
  · rintro ⟨s, hs, rfl⟩
    exact hs
  · exact fun h => ⟨String.ofList ds, by rwa [String.toList_ofList], String.toList_ofList⟩

/-- A character whose bytes no escape holds. -/
def IsOutsideChar (c : Char) : Prop :=
  ∀ b ∈ String.utf8EncodeChar c, IsOutside b

theorem isOutsideChar_of_basic
    (h : c.toNat < 0x80 → c.toNat ≠ '%'.toNat ∧ Text.hexValue? c.toNat = none) :
    IsOutsideChar c := by
  obtain ⟨hbytes, hlt⟩ | hbeyond := Text.utf8EncodeChar_eq_or c
  · obtain ⟨hne, hhex⟩ := h hlt
    have hcode : c.val.toUInt8.toNat = c.toNat := Text.toNat_toUInt8 hlt
    rw [IsOutsideChar, hbytes, List.forall_mem_singleton]
    refine ⟨fun heq => hne ?_, by rwa [hexValue?, hcode]⟩
    rw [← hcode, heq]
    rfl
  · intro b hb
    have hle := hbeyond b hb
    refine ⟨?_, ?_⟩
    · rintro rfl
      revert hle
      decide
    · rw [hexValue?, Text.hexValue?, if_neg (by omega), if_neg (by omega), if_neg (by omega)]

/-- **A character whose bytes no escape holds splits a text** whose escapes are read. -/
theorem decodeChars?_append_cons (hc : IsOutsideChar c) :
    decodeChars? (cs ++ c :: ds) = some text ↔ ∃ front behind,
      decodeChars? cs = some front ∧ decodeChars? ds = some behind ∧
        text = front ++ c :: behind := by
  have hbytes : decodeBytes ((cs ++ c :: ds).flatMap String.utf8EncodeChar) =
      decodeBytes (cs.flatMap String.utf8EncodeChar) ++
        (String.utf8EncodeChar c ++ decodeBytes (ds.flatMap String.utf8EncodeChar)) := by
    rw [List.flatMap_append, List.flatMap_cons,
      decodeBytes_append_append (Text.utf8EncodeChar_ne_nil c) hc]
  simp only [decodeChars?_eq_some_iff, hbytes]
  constructor
  · intro h
    obtain ⟨front, behind, rfl, hfront, hbehind⟩ := Text.flatMap_utf8EncodeChar_eq_append h
    exact ⟨front, behind, hfront, hbehind, rfl⟩
  · rintro ⟨front, behind, hfront, hbehind, rfl⟩
    rw [List.flatMap_append, List.flatMap_cons, hfront, hbehind]

/-- A text without a percent sign is read as it is. -/
theorem decodeChars?_of_ne (h : ∀ c ∈ cs, c ≠ '%') : decodeChars? cs = some cs := by
  have hnone : ∀ b ∈ cs.flatMap String.utf8EncodeChar, b ≠ '%'.toUInt8 := by
    intro b hb
    obtain ⟨c, hc, hb⟩ := List.mem_flatMap.mp hb
    exact Text.ne_of_mem_utf8EncodeChar (by decide) (h c hc) hb
  have hread := decodeBytes_append_of_ne hnone []
  rw [List.append_nil] at hread
  exact decodeChars?_eq_some_iff.mpr (hread.trans (List.append_nil _)).symm

end SessionReplay.Url
