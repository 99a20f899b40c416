import Mathlib.Data.List.TakeWhile
import SessionReplay.Proofs.Idna.Domain
import SessionReplay.Url.Ipv6

/-!
# Texts of eight-group addresses

* `readGroups_cons_cases`: one step of reading;
* **`parse_fits`**: an address that is read has eight groups of sixteen bits;
* `readGroups_colonChars`, `readGroups_groupsChars`: groups with colons between them are read one by
  one;
* **`parse_text`**: the text of an address is read as that address.
-/

namespace SessionReplay.Url.Ipv6

variable {groups front behind : List Nat} {cs rest : List Char} {r : Reading} {n : Nat}

/-! ## What is read -/

/-- A reading that may become an address: no more than eight groups, each of sixteen bits. -/
structure Reading.Fits (r : Reading) : Prop where
  length_le : r.groups.length ≤ 8
  lt : ∀ n ∈ r.groups, n < 65536

theorem Reading.Fits.finish (hr : r.Fits) (h : r.finish = .ok groups) :
    groups.length = 8 ∧ ∀ n ∈ groups, n < 65536 := by
  have hlt : ∀ n ∈ r.groups.reverse, n < 65536 := fun n hn => hr.lt n (List.mem_reverse.mp hn)
  have hlength := hr.length_le
  unfold Reading.finish at h
  dsimp only at h
  split at h
  · next count hcount =>
    obtain rfl := Except.ok.inj h
    constructor
    · simp only [List.length_append, List.length_take, List.length_replicate, List.length_drop,
        List.length_reverse]
      omega
    · intro n hn
      simp only [List.mem_append, List.mem_replicate] at hn
      rcases hn with (hn | hn) | hn
      · exact hlt n (List.mem_of_mem_take hn)
      · omega
      · exact hlt n (List.mem_of_mem_drop hn)
  · split_ifs at h with height
    obtain rfl := Except.ok.inj h
    exact ⟨height, hlt⟩

theorem hexValue?_lt {code value : Nat} (h : Text.hexValue? code = some value) : value < 16 := by
  unfold Text.hexValue? at h
  split_ifs at h <;> (have hvalue := Option.some.inj h; omega)

theorem readGroup_lt {limit count : Nat} (h : n < 16 ^ count) :
    (readGroup limit cs (count, n)).2.1 < 16 ^ (count + limit) := by
  induction limit generalizing cs count n with
  | zero => exact h
  | succ limit ih =>
    have hle : 16 ^ count ≤ 16 ^ (count + (limit + 1)) :=
      Nat.pow_le_pow_right (by decide) (Nat.le_add_right _ _)
    cases cs with
    | nil => exact Nat.lt_of_lt_of_le h hle
    | cons c rest =>
      unfold readGroup
      split
      · next value hvalue =>
        have hlt := hexValue?_lt hvalue
        have hnext : 16 * n + value < 16 ^ (count + 1) := by
          rw [Nat.pow_succ]
          omega
        rw [Nat.add_comm limit, ← Nat.add_assoc]
        exact ih hnext
      · exact Nat.lt_of_lt_of_le h hle

theorem decimalByte?_lt (h : decimalByte? cs = some n) : n < 256 := by
  unfold decimalByte? at h
  split at h
  · cases h
  · cases h
  · exact of_decide_eq_true (Option.filter_eq_some_iff.mp h).2

theorem bytesGroups?_fits (h : bytesGroups? cs = some groups) :
    groups.length = 2 ∧ ∀ n ∈ groups, n < 65536 := by
  unfold bytesGroups? at h
  split at h
  · next a b c d hbytes =>
    obtain rfl := Option.some.inj h
    rw [Idna.mapM_eq_some_iff] at hbytes
    simp only [List.forall₂_cons_right_iff] at hbytes
    obtain ⟨_, _, ha, ⟨_, _, hb, ⟨_, _, hc, ⟨_, _, hd, -, -⟩, -⟩, -⟩, -⟩ := hbytes
    have ha := decimalByte?_lt ha
    have hb := decimalByte?_lt hb
    have hc := decimalByte?_lt hc
    have hd := decimalByte?_lt hd
    refine ⟨rfl, ?_⟩
    rw [List.forall_mem_cons, List.forall_mem_singleton]
    omega
  · cases h

/-- One step of reading: two colons, the last group or the last four bytes, or a group and a
colon. -/
theorem readGroups_cons_cases {c : Char} (hr : r.Fits)
    (h : readGroups r (c :: rest) = .ok groups) :
    (∃ before, Reading.Fits ⟨0 :: r.groups, before⟩ ∧
      readGroups ⟨0 :: r.groups, before⟩ rest = .ok groups) ∨
    (∃ last : Reading, last.Fits ∧ last.finish = .ok groups) ∨
    ∃ n after, Reading.Fits ⟨n :: r.groups, r.before⟩ ∧ after.length ≤ rest.length ∧
      readGroups ⟨n :: r.groups, r.before⟩ after = .ok groups := by
  rw [readGroups] at h
  have hlength := hr.length_le
  have hfits : ∀ n < 65536, r.groups.length ≠ 8 → ∀ before, Reading.Fits ⟨n :: r.groups, before⟩ :=
    fun n hn hne before => ⟨Nat.lt_of_le_of_ne hlength hne, List.forall_mem_cons.mpr ⟨hn, hr.lt⟩⟩
  by_cases hfull : r.groups.length = 8
  · rw [if_pos hfull] at h
    cases h
  rw [if_neg hfull] at h
  by_cases hcolon : c = ':'
  · rw [if_pos hcolon] at h
    split_ifs at h with hbefore
    exact .inl ⟨_, hfits 0 (by decide) hfull _, h⟩
  rw [if_neg hcolon] at h
  have hlt : (readGroup 4 (c :: rest) (0, 0)).2.1 < 65536 := readGroup_lt (by decide)
  have hshort := readGroup_length 4 (c :: rest) (0, 0)
  split at h
  · cases h
  · next count n hgroup =>
    rw [hgroup] at hlt
    exact .inr (.inl ⟨_, hfits n hlt hfull _, h⟩)
  · next count n d after hgroup =>
    rw [hgroup] at hlt hshort
    by_cases hdot : d = '.'
    · rw [if_pos hdot] at h
      split at h
      · next last hlast =>
        refine .inr (.inl ⟨_, ?_, h⟩)
        split_ifs at hlast with hroom
        obtain ⟨hcount, hlt⟩ := bytesGroups?_fits hlast
        refine ⟨?_, List.forall_mem_append.mpr
          ⟨fun n hn => hlt n (List.mem_reverse.mp hn), hr.lt⟩⟩
        simp only [List.length_append, List.length_reverse]
        omega
      · cases h
    · rw [if_neg hdot] at h
      split_ifs at h with hnext
      exact .inr (.inr ⟨n, after, hfits n hlt hfull _, Nat.le_of_succ_le_succ hshort, h⟩)

theorem readGroups_fits (hr : r.Fits) (h : readGroups r cs = .ok groups) :
    groups.length = 8 ∧ ∀ n ∈ groups, n < 65536 := by
  induction hlength : cs.length using Nat.strong_induction_on generalizing r cs with
  | _ length ih =>
  cases cs with
  | nil =>
    rw [readGroups] at h
    exact hr.finish h
  | cons c rest =>
    rw [List.length_cons] at hlength
    rcases readGroups_cons_cases hr h with
      ⟨before, hnext, h⟩ | ⟨last, hlast, h⟩ | ⟨n, after, hnext, hle, h⟩
    · exact ih rest.length (by omega) hnext h rfl
    · exact hlast.finish h
    · exact ih after.length (by omega) hnext h rfl

/-- **An address that is read** has eight groups of sixteen bits. -/
theorem parse_fits (h : parse cs = .ok groups) :
    groups.length = 8 ∧ ∀ n ∈ groups, n < 65536 := by
  unfold parse at h
  split at h
  · exact readGroups_fits ⟨by decide, by simp⟩ h
  · cases h
  · cases h
  · cases h
  · exact readGroups_fits ⟨by decide, by simp⟩ h

/-! ## Reading groups one by one -/

/-- A text that does not go on with a hexadecimal digit ends a group. -/
def EndsGroup (rest : List Char) : Prop :=
  ∀ c ∈ rest.head?, Text.hexValue? c.toNat = none

theorem endsGroup_nil : EndsGroup [] := by
  simp [EndsGroup]

theorem readGroup_of_endsGroup (h : EndsGroup rest) (limit count n : Nat) :
    readGroup limit rest (count, n) = (count, n, rest) := by
  cases limit with
  | zero => rfl
  | succ limit =>
    cases rest with
    | nil => rfl
    | cons c rest => rw [readGroup, h c rfl]

theorem hexValue?_digitChar : ∀ n < 16, Text.hexValue? (Nat.digitChar n).toNat = some n := by
  decide

theorem readGroup_digits {digits : List Nat} {limit : Nat} (hdigits : ∀ d ∈ digits, d < 16)
    (hlength : digits.length ≤ limit) (hrest : EndsGroup rest) (count n : Nat) :
    readGroup limit (digits.map Nat.digitChar ++ rest) (count, n) =
      (count + digits.length, digits.foldl (16 * · + ·) n, rest) := by
  induction digits generalizing limit count n with
  | nil => exact readGroup_of_endsGroup hrest limit count n
  | cons d digits ih =>
    rw [List.forall_mem_cons] at hdigits
    obtain ⟨limit, rfl⟩ := Nat.exists_eq_succ_of_ne_zero (Nat.ne_zero_of_lt hlength)
    rw [List.map_cons, List.cons_append, readGroup, hexValue?_digitChar d hdigits.1]
    refine (ih hdigits.2 (Nat.le_of_succ_le_succ hlength) _ _).trans ?_
    rw [List.length_cons, List.foldl_cons, Nat.add_right_comm, Nat.add_assoc]

theorem exists_hexDigits {length : Nat} (h : n < 16 ^ (length + 1)) : ∃ first later,
    Nat.toDigits 16 n = (first :: later).map Nat.digitChar ∧ (∀ d ∈ first :: later, d < 16) ∧
      (first :: later).length ≤ length + 1 ∧ (first :: later).foldl (16 * · + ·) 0 = n := by
  induction length generalizing n with
  | zero =>
    exact ⟨n, [], Nat.toDigits_of_lt_base h, List.forall_mem_singleton.mpr h, Nat.le_refl _, by simp⟩
  | succ length ih =>
    by_cases hlt : n < 16
    · exact ⟨n, [], Nat.toDigits_of_lt_base hlt, List.forall_mem_singleton.mpr hlt, by simp, by simp⟩
    · have hdiv : n / 16 < 16 ^ (length + 1) := by
        rw [Nat.pow_succ] at h
        exact Nat.div_lt_of_lt_mul (by omega)
      obtain ⟨first, later, hdigits, hall, hlength, hvalue⟩ := ih hdiv
      refine ⟨first, later ++ [n % 16], ?_, ?_, ?_, ?_⟩
      · rw [Nat.toDigits_of_base_le (by decide) (Nat.not_lt.mp hlt), hdigits, ← List.cons_append,
          List.map_append]
        rfl
      · rw [← List.cons_append, List.forall_mem_append, List.forall_mem_singleton]
        exact ⟨hall, Nat.mod_lt n (by decide)⟩
      · rw [← List.cons_append, List.length_append]
        exact Nat.succ_le_succ hlength
      · rw [← List.cons_append, List.foldl_append, hvalue]
        exact Nat.div_add_mod n 16

/-- A group in hexadecimal, with something behind it that ends it, is read as that group. -/
theorem readGroup_toDigits (hn : n < 65536) (hrest : EndsGroup rest) : ∃ c cs count,
    Nat.toDigits 16 n = c :: cs ∧ c ≠ ':' ∧
      readGroup 4 (c :: (cs ++ rest)) (0, 0) = (count + 1, n, rest) := by
  have hn : n < 16 ^ (3 + 1) := hn
  obtain ⟨first, later, hdigits, hall, hlength, hvalue⟩ := exists_hexDigits hn
  have hcolon : ∀ d < 16, Nat.digitChar d ≠ ':' := by decide
  refine ⟨_, _, later.length, hdigits, hcolon first (hall first List.mem_cons_self), ?_⟩
  rw [← List.cons_append, ← List.map_cons, readGroup_digits hall hlength hrest, hvalue,
    Nat.zero_add, List.length_cons]

/-- The last group. -/
theorem readGroups_last (hr : r.groups.length < 8) (hn : n < 65536) :
    readGroups r (Nat.toDigits 16 n) = Reading.finish ⟨n :: r.groups, r.before⟩ := by
  obtain ⟨c, cs, count, hdigits, hcolon, hgroup⟩ := readGroup_toDigits hn endsGroup_nil
  rw [List.append_nil] at hgroup
  rw [hdigits, readGroups, if_neg hr.ne, if_neg hcolon]
  split
  · next h => rw [hgroup] at h; cases h
  · next h => rw [hgroup] at h; cases h; rfl
  · next h => rw [hgroup] at h; cases h

/-- A group and a colon, with something behind them. -/
theorem readGroups_more (hr : r.groups.length < 8) (hn : n < 65536) (hrest : rest ≠ []) :
    readGroups r (Nat.toDigits 16 n ++ ':' :: rest) = readGroups ⟨n :: r.groups, r.before⟩ rest := by
  have hend : EndsGroup (':' :: rest) := by
    rintro c hc
    obtain rfl := Option.some.inj hc
    rfl
  obtain ⟨c, cs, count, hdigits, hcolon, hgroup⟩ := readGroup_toDigits hn hend
  rw [hdigits, List.cons_append, readGroups, if_neg hr.ne, if_neg hcolon]
  split
  · next h => rw [hgroup] at h; cases h
  · next h => rw [hgroup] at h; cases h
  · next h =>
    rw [hgroup] at h
    cases h
    rw [if_neg (by decide), if_pos ⟨rfl, hrest⟩]

/-- Two colons, where none stood before. -/
theorem readGroups_colons (hr : r.groups.length < 8) (hbefore : r.before = none) :
    readGroups r (':' :: rest) = readGroups ⟨0 :: r.groups, some r.groups.length⟩ rest := by
  rw [readGroups, if_neg hr.ne, if_pos rfl, hbefore]
  rfl

/-- Groups in hexadecimal, with colons between them. -/
def groupsChars (groups : List Nat) : List Char :=
  [':'].intercalate (groups.map (Nat.toDigits 16))

theorem toList_groupsText (groups : List Nat) : (groupsText groups).toList = groupsChars groups := by
  rw [groupsText, String.toList_intercalate, List.map_map, groupsChars]
  congr 1
  exact List.map_congr_left fun n _ => String.toList_ofList

/-- Groups in hexadecimal, each with a colon behind it. -/
def colonChars (groups : List Nat) : List Char :=
  groups.flatMap fun n => Nat.toDigits 16 n ++ [':']

theorem groupsChars_concat (groups : List Nat) (n : Nat) :
    groupsChars (groups ++ [n]) = colonChars groups ++ Nat.toDigits 16 n := by
  induction groups with
  | nil => simp [groupsChars, colonChars]
  | cons m groups ih =>
    rw [groupsChars, List.cons_append, List.map_cons,
      List.intercalate_cons_of_ne_nil (by simp), colonChars, List.flatMap_cons, List.append_assoc,
      List.append_assoc, List.append_assoc]
    exact congrArg (Nat.toDigits 16 m ++ ':' :: ·) ih

theorem groupsChars_append_colon (hgroups : groups ≠ []) (rest : List Char) :
    groupsChars groups ++ ':' :: rest = colonChars groups ++ rest := by
  rw [← List.dropLast_concat_getLast hgroups]
  generalize groups.dropLast = front
  rw [groupsChars_concat, colonChars, colonChars, List.flatMap_append]
  simp

/-- **Groups are read one by one.** -/
theorem readGroups_colonChars (hr : r.groups.length + groups.length ≤ 8)
    (hlt : ∀ n ∈ groups, n < 65536) (hrest : rest ≠ []) :
    readGroups r (colonChars groups ++ rest) =
      readGroups ⟨groups.reverse ++ r.groups, r.before⟩ rest := by
  induction groups generalizing r with
  | nil => rfl
  | cons n groups ih =>
    rw [List.forall_mem_cons] at hlt
    rw [List.length_cons] at hr
    have hreverse : (n :: groups).reverse ++ r.groups = groups.reverse ++ n :: r.groups := by simp
    have hchars : colonChars (n :: groups) ++ rest =
        Nat.toDigits 16 n ++ ':' :: (colonChars groups ++ rest) := by
      simp [colonChars]
    rw [hchars, hreverse, readGroups_more (by omega) hlt.1 (by simp [hrest]), ih ?_ hlt.2]
    rw [List.length_cons]
    omega

theorem readGroups_groupsChars (hr : r.groups.length + groups.length ≤ 8)
    (hlt : ∀ n ∈ groups, n < 65536) : readGroups r (groupsChars groups) =
      Reading.finish ⟨groups.reverse ++ r.groups, r.before⟩ := by
  by_cases hgroups : groups = []
  · rw [hgroups, groupsChars, List.map_nil, List.intercalate_nil, readGroups]
    rfl
  · obtain ⟨front, n, rfl⟩ : ∃ front n, groups = front ++ [n] :=
      ⟨_, _, (List.dropLast_concat_getLast hgroups).symm⟩
    rw [List.forall_mem_append, List.forall_mem_singleton] at hlt
    rw [List.length_append, List.length_singleton] at hr
    rw [groupsChars_concat, readGroups_colonChars (by omega) hlt.1 Nat.toDigits_ne_nil,
      readGroups_last _ hlt.2, List.reverse_append]
    · rfl
    · rw [List.length_append, List.length_reverse]
      omega

/-! ## The longest run of zeros -/

theorem longestZeros_spec (place : Nat) (groups : List Nat) : ∃ front behind,
    groups = front ++ (List.replicate (longestZeros place groups).2 0 ++ behind) ∧
      (longestZeros place groups).1 = place + front.length := by
  induction groups generalizing place with
  | nil => exact ⟨[], [], rfl, rfl⟩
  | cons n groups ih =>
    unfold longestZeros
    dsimp only
    split_ifs with hlonger
    · obtain ⟨front, behind, hsplit, hplace⟩ := ih (place + 1)
      refine ⟨n :: front, behind, congrArg (n :: ·) hsplit, ?_⟩
      rw [hplace, List.length_cons, Nat.add_right_comm, Nat.add_assoc]
    · refine ⟨[], (n :: groups).dropWhile (· == 0), ?_, rfl⟩
      have hzeros : (n :: groups).takeWhile (· == 0) =
          List.replicate (leadingZeros (n :: groups)) 0 :=
        List.eq_replicate_iff.mpr ⟨rfl, fun m hm => by simpa using List.mem_takeWhile_imp hm⟩
      rw [List.nil_append, ← hzeros, List.takeWhile_append_dropWhile]

/-- The text of an address: all of its groups, or what is before and behind two or more zeros. -/
theorem toList_text (groups : List Nat) : (text groups).toList = groupsChars groups ∨
    ∃ front count behind, groups = front ++ (List.replicate (count + 2) 0 ++ behind) ∧
      (text groups).toList = groupsChars front ++ ':' :: ':' :: groupsChars behind := by
  obtain ⟨front, behind, hsplit, hplace⟩ := longestZeros_spec 0 groups
  rw [text]
  dsimp only
  split_ifs with hshort
  · exact .inl (toList_groupsText groups)
  · right
    obtain ⟨count, hcount⟩ := Nat.exists_eq_add_of_le' (Nat.not_lt.mp hshort)
    rw [hcount] at hsplit ⊢
    rw [Nat.zero_add] at hplace
    have hfront : groups.take (longestZeros 0 groups).1 = front := by
      rw [hplace, hsplit]
      exact List.take_left
    have hbehind : groups.drop ((longestZeros 0 groups).1 + (count + 2)) = behind := by
      rw [hplace, hsplit, ← List.drop_drop, List.drop_left, List.drop_left' (by simp)]
    refine ⟨front, count, behind, hsplit, ?_⟩
    rw [hfront, hbehind, String.toList_append, String.toList_append, toList_groupsText,
      toList_groupsText, List.append_assoc]
    rfl

theorem parse_colonChars (hgroups : groups ≠ []) (hlt : ∀ n ∈ groups, n < 65536)
    (rest : List Char) :
    parse (colonChars groups ++ rest) = readGroups ⟨[], none⟩ (colonChars groups ++ rest) := by
  obtain ⟨n, later, rfl⟩ := List.exists_cons_of_ne_nil hgroups
  obtain ⟨c, cs, -, hdigits, hcolon, -⟩ :=
    readGroup_toDigits (hlt n List.mem_cons_self) endsGroup_nil
  have hchars : colonChars (n :: later) ++ rest =
      c :: (cs ++ ':' :: (colonChars later ++ rest)) := by
    simp [colonChars, hdigits]
  rw [hchars]
  unfold parse
  split
  · next h => exact absurd (List.cons.inj h).1 hcolon
  · next h => exact absurd (List.cons.inj h).1 hcolon
  · next h => cases h
  · next h => simp at h
  · rfl

/-- Groups with missing zeros, of which the reader knows one. -/
theorem finish_zeros {count : Nat} (h : front.length + (count + 2 + behind.length) = 8) :
    Reading.finish ⟨behind.reverse ++ 0 :: front.reverse, some front.length⟩ =
      .ok (front ++ (List.replicate (count + 2) 0 ++ behind)) := by
  have hreverse : (behind.reverse ++ 0 :: front.reverse).reverse = front ++ 0 :: behind := by simp
  have hmissing : 8 - (front ++ 0 :: behind).length = count + 1 := by
    rw [List.length_append, List.length_cons]
    omega
  have hzeros : List.replicate (count + 2) 0 ++ behind =
      List.replicate (count + 1) 0 ++ 0 :: behind := by
    rw [List.replicate_succ', List.append_assoc]
    rfl
  rw [Reading.finish, hreverse]
  dsimp only
  rw [hmissing, List.take_left, List.drop_left, List.append_assoc, hzeros]

/-- **The text of an address is read** as that address. -/
theorem parse_text (hlength : groups.length = 8) (hlt : ∀ n ∈ groups, n < 65536) :
    parse (text groups).toList = .ok groups := by
  rcases toList_text groups with htext | ⟨front, count, behind, rfl, htext⟩
  · have hne : groups ≠ [] := by
      rintro rfl
      cases hlength
    have hfront : groups.dropLast ≠ [] := by
      rw [← List.length_pos_iff, List.length_dropLast, hlength]
      decide
    rw [← List.dropLast_concat_getLast hne] at htext hlength hlt ⊢
    generalize groups.dropLast = front, groups.getLast hne = n at *
    rw [List.forall_mem_append] at hlt
    have hread : parse (groupsChars (front ++ [n])) =
        readGroups ⟨[], none⟩ (groupsChars (front ++ [n])) := by
      rw [groupsChars_concat]
      exact parse_colonChars hfront hlt.1 _
    rw [htext, hread, readGroups_groupsChars (by simp [hlength]) (List.forall_mem_append.mpr hlt)]
    simp [Reading.finish, hlength]
  · simp only [List.forall_mem_append] at hlt
    simp only [List.length_append, List.length_replicate] at hlength
    have hread : parse (groupsChars front ++ ':' :: ':' :: groupsChars behind) =
        readGroups ⟨0 :: front.reverse, some front.length⟩ (groupsChars behind) := by
      by_cases hfront : front = []
      · rw [hfront]
        rfl
      · rw [groupsChars_append_colon hfront, parse_colonChars hfront hlt.1,
          readGroups_colonChars _ hlt.1 (List.cons_ne_nil _ _), readGroups_colons _ rfl]
        · simp
        · simp only [List.append_nil, List.length_reverse]
          omega
        · simp only [List.length_nil]
          omega
    rw [htext, hread, readGroups_groupsChars _ hlt.2.2, finish_zeros hlength]
    simp only [List.length_cons, List.length_reverse]
    omega

end SessionReplay.Url.Ipv6
