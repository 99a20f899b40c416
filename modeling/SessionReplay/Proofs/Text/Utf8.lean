import SessionReplay.Text.Utf8

/-!
# Characters in bytes

* `bytes_injective`: texts are told apart by their bytes;
* `bytes_eq_flatMap`: the bytes of a text are those of its characters;
* `utf8EncodeChar_eq_or`: they are its code, or all of them lie beyond the codes of signs;
* `ne_of_mem_utf8EncodeChar`: the code of a sign is no byte of another character;
* **`flatMap_utf8EncodeChar_eq_append`**: where the bytes of a character stand among the bytes of a
  text, the text has that character.
-/

namespace SessionReplay.Text

variable {c d : Char} {cs : List Char} {xs ys : List UInt8}

theorem bytes_injective : Function.Injective bytes := fun s _ h =>
  Option.some.inj ((ofBytes?_bytes s).symm.trans (ofBytes?_eq_some_iff.mpr h.symm))

/-- The bytes of a text are those of its characters. -/
theorem bytes_eq_flatMap (s : String) : bytes s = s.toList.flatMap String.utf8EncodeChar := by
  have hbytes : s.toByteArray = s.toList.utf8Encode := by
    conv => lhs; rw [← String.ofList_toList (s := s)]
    exact String.toByteArray_ofList
  rw [bytes, hbytes, List.utf8Encode, List.toList_data_toByteArray]

theorem le_toNat_or {x mask : UInt8} (h : 0x80 ≤ mask.toNat) : 0x80 ≤ (x ||| mask).toNat := by
  rw [UInt8.toNat_or]
  exact Nat.le_trans h Nat.right_le_or

/-- The bytes of a character are its code, or all of them are beyond the codes of signs. -/
theorem utf8EncodeChar_eq_or (c : Char) :
    String.utf8EncodeChar c = [c.val.toUInt8] ∧ c.toNat < 0x80 ∨
      ∀ b ∈ String.utf8EncodeChar c, 0x80 ≤ b.toNat := by
  obtain h | h | h | h := Char.utf8Size_eq c
  · have hle := UInt32.le_iff_toNat_le.mp (Char.utf8Size_eq_one_iff.mp h)
    exact .inl ⟨String.utf8EncodeChar_eq_singleton h, Nat.lt_succ_iff.mpr hle⟩
  · rw [String.utf8EncodeChar_eq_cons_cons h]
    right
    simp only [List.forall_mem_cons, List.not_mem_nil, false_implies, implies_true, and_true]
    exact ⟨le_toNat_or (by decide), le_toNat_or (by decide)⟩
  · rw [String.utf8EncodeChar_eq_cons_cons_cons h]
    right
    simp only [List.forall_mem_cons, List.not_mem_nil, false_implies, implies_true, and_true]
    exact ⟨le_toNat_or (by decide), le_toNat_or (by decide), le_toNat_or (by decide)⟩
  · rw [String.utf8EncodeChar_eq_cons_cons_cons_cons h]
    right
    simp only [List.forall_mem_cons, List.not_mem_nil, false_implies, implies_true, and_true]
    exact ⟨le_toNat_or (by decide), le_toNat_or (by decide), le_toNat_or (by decide),
      le_toNat_or (by decide)⟩

theorem toNat_toUInt8 {c : Char} (h : c.toNat < 0x80) : c.toUInt8.toNat = c.toNat := by
  have hval : c.toNat = c.val.toNat := rfl
  rw [Char.toUInt8, UInt32.toNat_toUInt8]
  exact Nat.mod_eq_of_lt (by omega)

/-- The code of a sign is no byte of another character. -/
theorem ne_of_mem_utf8EncodeChar {b : UInt8} (hd : d.toNat < 0x80) (hcd : c ≠ d)
    (hb : b ∈ String.utf8EncodeChar c) : b ≠ d.toUInt8 := by
  rintro rfl
  have hcode := toNat_toUInt8 hd
  obtain ⟨hbytes, hlt⟩ | hbeyond := utf8EncodeChar_eq_or c
  · have hc : c.val.toUInt8.toNat = c.toNat := toNat_toUInt8 hlt
    rw [hbytes, List.mem_singleton] at hb
    rw [← hb, hcode] at hc
    exact hcd (Char.toNat_inj.mp hc.symm)
  · have hle := hbeyond _ hb
    omega

/-! ## Where a character begins -/

theorem utf8EncodeChar_ne_nil (c : Char) : String.utf8EncodeChar c ≠ [] := by
  have hpos := c.utf8Size_pos
  rw [← String.length_utf8EncodeChar] at hpos
  exact List.ne_nil_of_length_pos hpos

/-- The bytes of a character are not the beginning of those of another one. -/
theorem eq_of_utf8EncodeChar_append
    (h : String.utf8EncodeChar c ++ xs = String.utf8EncodeChar d ++ ys) : c = d := by
  have hdecode := congrArg (fun bs : List UInt8 => bs.toByteArray.utf8DecodeChar? 0) h
  simpa [List.toByteArray_append, ByteArray.utf8DecodeChar?_utf8EncodeChar_append] using hdecode

/-- No character begins within the bytes of another one. -/
theorem eq_nil_of_utf8EncodeChar_eq_append {b : UInt8}
    (hd : String.utf8EncodeChar d = xs ++ b :: ys) (hc : b ∈ (String.utf8EncodeChar c).head?) :
    xs = [] := by
  have hfirst : b.IsUTF8FirstByte := by
    rw [List.head?_eq_getElem?, Option.mem_def, List.getElem?_eq_some_iff] at hc
    obtain ⟨hlt, rfl⟩ := hc
    exact UInt8.isUTF8FirstByte_getElem_utf8EncodeChar.mpr rfl
  have hlt : xs.length < (String.utf8EncodeChar d).length := by
    rw [hd, List.length_append, List.length_cons]
    omega
  have hget : (String.utf8EncodeChar d)[xs.length] = b := by
    simp only [hd, List.getElem_append_right (Nat.le_refl _), Nat.sub_self, List.getElem_cons_zero]
  rw [← hget, UInt8.isUTF8FirstByte_getElem_utf8EncodeChar] at hfirst
  exact List.length_eq_zero_iff.mp hfirst

/-- **Where the bytes of a character stand** among those of a text, the text has that character. -/
theorem flatMap_utf8EncodeChar_eq_append
    (h : cs.flatMap String.utf8EncodeChar = xs ++ (String.utf8EncodeChar c ++ ys)) :
    ∃ front behind, cs = front ++ c :: behind ∧ front.flatMap String.utf8EncodeChar = xs ∧
      behind.flatMap String.utf8EncodeChar = ys := by
  induction cs generalizing xs with
  | nil =>
    rw [List.flatMap_nil, eq_comm, List.append_eq_nil_iff, List.append_eq_nil_iff] at h
    exact absurd h.2.1 (utf8EncodeChar_ne_nil c)
  | cons d cs ih =>
    -- The place is behind the bytes of the first character, or not beyond their start.
    rw [List.flatMap_cons, List.append_eq_append_iff] at h
    rcases h with ⟨more, rfl, hcs⟩ | ⟨more, hd, hrest⟩
    · obtain ⟨front, behind, rfl, rfl, rfl⟩ := ih hcs
      exact ⟨d :: front, behind, rfl, rfl, rfl⟩
    · cases more with
      | nil =>
        have hcs : cs.flatMap String.utf8EncodeChar = [] ++ (String.utf8EncodeChar c ++ ys) :=
          hrest.symm
        obtain ⟨front, behind, rfl, hfront, rfl⟩ := ih hcs
        refine ⟨d :: front, behind, rfl, ?_, rfl⟩
        rw [List.flatMap_cons, hfront, hd, List.append_nil, List.append_nil]
      | cons b more =>
        have hb : b ∈ (String.utf8EncodeChar c).head? := by
          have hhead := congrArg List.head? hrest
          rw [List.head?_append, List.head?_eq_some_head (utf8EncodeChar_ne_nil c)] at hhead
          rw [List.head?_eq_some_head (utf8EncodeChar_ne_nil c)]
          exact hhead
        obtain rfl := eq_nil_of_utf8EncodeChar_eq_append hd hb
        rw [List.nil_append] at hd
        rw [← hd] at hrest
        obtain rfl := eq_of_utf8EncodeChar_append hrest
        exact ⟨[], cs, rfl, rfl, (List.append_cancel_left hrest).symm⟩

end SessionReplay.Text
