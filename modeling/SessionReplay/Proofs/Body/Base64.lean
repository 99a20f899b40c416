import Mathlib.Algebra.Group.Nat.Defs
import Mathlib.Data.List.Forall2
import Mathlib.Tactic.SplitIfs
import SessionReplay.Body.Base64
import SessionReplay.Proofs.Outcome

/-!
# Base64 by its rule

The bits of bytes are cut into groups of six, filled up with zero bits, and each group is written as
the sign of its number; padding signs tell how many bits were filled up.

* `alphabet`, `bits`, `Writes` — the rule;
* `sextets` — the numbers of six bits that up to three bytes make;
* `valueAt_eq_ok_iff`, `lastValues_eq_ok`, `lastGroup_eq_ok_iff`: what is read from a sign, from the
  signs of the last group and from the last group;
* **`writes_iff`**: the rule gives one written form, that of `encode`;
* **`decode_eq_ok_iff`**: reading accepts the written form of bytes and nothing else.
-/

namespace SessionReplay.Base64

/-! ## The rule -/

/-- The signs in the order of their numbers. -/
def alphabet : List UInt8 :=
  "ABCDEFGHIJKLMNOPQRSTUVWXYZabcdefghijklmnopqrstuvwxyz0123456789+/".toList.map Char.toUInt8

/-- The sign of a number. -/
def IsSign (value : Nat) (sign : UInt8) : Prop :=
  alphabet[value]? = some sign

/-- The lowest bits of a number, the highest of them first. -/
def bits : Nat → Nat → List Bool
  | 0, _ => []
  | width + 1, n => bits width (n / 2) ++ [n % 2 == 1]

/-- **The rule**: the bits of the bytes, with two zero bits for each padding sign behind them, are
the bits of numbers of six bits, and the signs of these numbers are written before the padding. -/
def Writes (bytes text : List UInt8) : Prop :=
  ∃ values signs padding,
    values.flatMap (bits 6) =
      bytes.flatMap (fun b => bits 8 b.toNat) ++ List.replicate (2 * padding) false ∧
    List.Forall₂ IsSign values signs ∧ padding < 3 ∧ text = signs ++ List.replicate padding pad

variable {i j k l m n start index padding : Nat} {values values' : List Nat}
  {bytes group signs text text' : List UInt8}

/-! ## Bits -/

theorem length_bits (k n : Nat) : (bits k n).length = k := by
  induction k generalizing n with
  | zero => rfl
  | succ k ih => rw [bits, List.length_append, ih, List.length_singleton]

/-- Bits behind bits are those of one number. -/
theorem bits_append (hn : n < 2 ^ k) : bits j m ++ bits k n = bits (j + k) (2 ^ k * m + n) := by
  induction k generalizing n with
  | zero =>
    obtain rfl : n = 0 := by omega
    simp [bits]
  | succ k ih =>
    rw [Nat.pow_succ] at hn ⊢
    have hhalf : (2 ^ k * 2 * m + n) / 2 = 2 ^ k * m + n / 2 := by
      rw [Nat.mul_right_comm]
      omega
    have hodd : (2 ^ k * 2 * m + n) % 2 = n % 2 := by
      rw [Nat.mul_right_comm]
      omega
    rw [← Nat.add_assoc, bits, bits, hhalf, hodd, ← List.append_assoc, ih (by omega)]

theorem bits_injective (hm : m < 2 ^ k) (hn : n < 2 ^ k) (h : bits k m = bits k n) : m = n := by
  induction k generalizing m n with
  | zero => omega
  | succ k ih =>
    rw [Nat.pow_succ] at hm hn
    obtain ⟨hhigh, hlow⟩ := List.append_inj' h rfl
    have hhalf : m / 2 = n / 2 := ih (by omega) (by omega) hhigh
    have hlow : (m % 2 == 1) = (n % 2 == 1) := List.head_eq_of_cons_eq hlow
    have hodd : m % 2 = 1 ↔ n % 2 = 1 := by
      rw [← beq_iff_eq, hlow, beq_iff_eq]
    omega

theorem length_flatMap_bits {α : Type} (f : α → Nat) (xs : List α) :
    (xs.flatMap fun x => bits k (f x)).length = k * xs.length := by
  simp [List.length_flatMap, length_bits, Nat.mul_comm]

/-- Numbers are told apart by their bits. -/
theorem flatMap_bits_injective (hvalues : ∀ v ∈ values, v < 2 ^ k)
    (hvalues' : ∀ v ∈ values', v < 2 ^ k) (hlength : values.length = values'.length)
    (h : values.flatMap (bits k) = values'.flatMap (bits k)) : values = values' := by
  induction values generalizing values' with
  | nil => exact (List.length_eq_zero_iff.mp hlength.symm).symm
  | cons v values ih =>
    match values' with
    | v' :: values' =>
      rw [List.forall_mem_cons] at hvalues hvalues'
      rw [List.flatMap_cons, List.flatMap_cons] at h
      obtain ⟨hfirst, hlater⟩ := List.append_inj h (by rw [length_bits, length_bits])
      rw [bits_injective hvalues.1 hvalues'.1 hfirst,
        ih hvalues.2 hvalues'.2 (Nat.succ.inj hlength) hlater]

/-! ## Signs -/

theorem isSign_sign : ∀ v < 64, IsSign v (sign v) := by
  unfold IsSign
  decide +kernel

theorem forall₂_isSign (hvalues : ∀ v ∈ values, v < 64) :
    List.Forall₂ IsSign values (values.map sign) := by
  rw [List.forall₂_map_right_iff, List.forall₂_same]
  exact fun v hv => isSign_sign v (hvalues v hv)

theorem lt_of_forall₂_isSign (h : List.Forall₂ IsSign values signs) : ∀ v ∈ values, v < 64 := by
  induction h with
  | nil => nofun
  | cons hsign _ ih =>
    obtain ⟨hlt, -⟩ := List.getElem?_eq_some_iff.mp hsign
    exact List.forall_mem_cons.mpr ⟨hlt, ih⟩

theorem mem_alphabet_of_forall₂_isSign (h : List.Forall₂ IsSign values signs) :
    ∀ b ∈ signs, b ∈ alphabet := by
  induction h with
  | nil => nofun
  | cons hsign _ ih => exact List.forall_mem_cons.mpr ⟨List.mem_of_getElem? hsign, ih⟩

theorem sign_ne_pad : ∀ v < 64, sign v ≠ pad := by decide

theorem value?_sign : ∀ v < 64, value? (sign v) = some v := by decide

theorem eq_sign_of_value? {b : UInt8} {v : Nat} (h : value? b = some v) : v < 64 ∧ b = sign v := by
  have hall : ∀ n < 256, ∀ v ∈ value? (UInt8.ofNat n), v < 64 ∧ UInt8.ofNat n = sign v := by
    decide +kernel
  have hb := hall b.toNat b.toNat_lt v
  rw [UInt8.ofNat_toNat] at hb
  exact hb h

theorem valueAt_eq_ok_iff {place v : Nat} {b : UInt8} :
    valueAt place b = .ok v ↔ v < 64 ∧ b = sign v := by
  rw [valueAt]
  constructor
  · intro h
    split at h
    · next value hvalue =>
      cases h
      exact eq_sign_of_value? hvalue
    · cases h
  · rintro ⟨hlt, rfl⟩
    rw [value?_sign v hlt]

theorem valueAt_sign (place : Nat) {v : Nat} (h : v < 64) : valueAt place (sign v) = .ok v :=
  valueAt_eq_ok_iff.mpr ⟨h, rfl⟩

/-! ## Writing -/

theorem length_encode (bytes : List UInt8) :
    (encode bytes).length = 4 * ((bytes.length + 2) / 3) := by
  induction bytes using encode.induct with
  | case1 a b c rest ih =>
    rw [encode]
    simp only [List.length_cons, ih]
    omega
  | case2 a b | case3 a =>
    rw [encode]
    simp only [List.length_cons, List.length_nil]
  | case4 => rfl

/-- The numbers of six bits that up to three bytes make. -/
def sextets : List UInt8 → List Nat
  | [a] => [a.toNat / 4, a.toNat % 4 * 16]
  | [a, b] =>
    let n := 1024 * a.toNat + 4 * b.toNat
    [n / 4096, n / 64 % 64, n % 64]
  | [a, b, c] =>
    let n := 65536 * a.toNat + 256 * b.toNat + c.toNat
    [n / 262144, n / 4096 % 64, n / 64 % 64, n % 64]
  | _ => []

theorem sextets_lt (bytes : List UInt8) : ∀ v ∈ sextets bytes, v < 64 := by
  unfold sextets
  split
  · next a =>
    have ha := a.toNat_lt
    simp only [List.forall_mem_cons, List.not_mem_nil, false_implies, implies_true, and_true]
    omega
  · next a b =>
    have ha := a.toNat_lt
    have hb := b.toNat_lt
    simp only [List.forall_mem_cons, List.not_mem_nil, false_implies, implies_true, and_true]
    omega
  · next a b c =>
    have ha := a.toNat_lt
    have hb := b.toNat_lt
    have hc := c.toNat_lt
    simp only [List.forall_mem_cons, List.not_mem_nil, false_implies, implies_true, and_true]
    omega
  · nofun

theorem length_sextets (hsome : bytes ≠ []) (hthree : bytes.length ≤ 3) :
    (sextets bytes).length = bytes.length + 1 := by
  match bytes with
  | [_] | [_, _] | [_, _, _] => rfl
  | _ :: _ :: _ :: _ :: _ =>
    simp only [List.length_cons] at hthree
    omega

/-- The bits are those of the bytes, filled up with zero bits. -/
theorem bits_sextets (hsome : bytes ≠ []) (hthree : bytes.length ≤ 3) :
    (sextets bytes).flatMap (bits 6) =
      bytes.flatMap (fun b => bits 8 b.toNat) ++ List.replicate (2 * (3 - bytes.length)) false := by
  match bytes with
  | [a] =>
    change bits 6 (a.toNat / 4) ++ bits 6 (a.toNat % 4 * 16) = bits 8 a.toNat ++ bits 4 0
    rw [bits_append (by omega), bits_append (by omega)]
    congr 1
    omega
  | [a, b] =>
    have hb := b.toNat_lt
    generalize hn : 1024 * a.toNat + 4 * b.toNat = n
    change bits 6 (_ / 4096) ++ (bits 6 (_ / 64 % 64) ++ bits 6 (_ % 64)) =
      (bits 8 a.toNat ++ bits 8 b.toNat) ++ bits 2 0
    rw [hn, bits_append (by omega), bits_append (by omega), bits_append hb, bits_append (by omega)]
    congr 1
    omega
  | [a, b, c] =>
    have hb := b.toNat_lt
    have hc := c.toNat_lt
    generalize hn : 65536 * a.toNat + 256 * b.toNat + c.toNat = n
    change bits 6 (_ / 262144) ++ (bits 6 (_ / 4096 % 64) ++
        (bits 6 (_ / 64 % 64) ++ bits 6 (_ % 64))) =
      bits 8 a.toNat ++ (bits 8 b.toNat ++ bits 8 c.toNat)
    rw [hn, bits_append (by omega), bits_append (by omega), bits_append (by omega), bits_append hc,
      bits_append (by omega)]
    congr 1
    omega
  | _ :: _ :: _ :: _ :: _ =>
    simp only [List.length_cons] at hthree
    omega

/-- Up to three bytes are written as the signs of these numbers, and padding. -/
theorem encode_of_short (hsome : bytes ≠ []) (hthree : bytes.length ≤ 3) :
    encode bytes =
      (sextets bytes).map sign ++ List.replicate (3 - bytes.length) pad := by
  match bytes with
  | [_] | [_, _] | [_, _, _] => rfl
  | _ :: _ :: _ :: _ :: _ =>
    simp only [List.length_cons] at hthree
    omega

/-- The first three bytes are written as the signs of their numbers. -/
theorem encode_cons (a b c : UInt8) (rest : List UInt8) :
    encode (a :: b :: c :: rest) = (sextets [a, b, c]).map sign ++ encode rest := rfl

theorem writes_of_short (hsome : bytes ≠ []) (hthree : bytes.length ≤ 3) :
    Writes bytes (encode bytes) := by
  have hpos := List.length_pos_iff.mpr hsome
  exact ⟨sextets bytes, _, 3 - bytes.length, bits_sextets hsome hthree,
    forall₂_isSign (sextets_lt bytes), by omega, encode_of_short hsome hthree⟩

/-- The written form follows the rule. -/
theorem writes_encode (bytes : List UInt8) : Writes bytes (encode bytes) := by
  induction bytes using encode.induct with
  | case1 a b c rest ih =>
    obtain ⟨values, signs, padding, hbits, hsigns, hpadding, htext⟩ := ih
    have hfirst : (sextets [a, b, c]).flatMap (bits 6) =
        [a, b, c].flatMap fun b => bits 8 b.toNat := by
      rw [bits_sextets (by simp) (by simp)]
      exact List.append_nil _
    refine ⟨sextets [a, b, c] ++ values, _, padding, ?_,
      List.rel_append (forall₂_isSign (sextets_lt _)) hsigns, hpadding, ?_⟩
    · rw [List.flatMap_append, hfirst, hbits, ← List.append_assoc, ← List.flatMap_append]
      rfl
    · rw [encode_cons, htext, List.append_assoc]
  | case2 a b | case3 a => exact writes_of_short (by simp) (by simp)
  | case4 => exact ⟨[], [], 0, rfl, .nil, by decide, rfl⟩

/-- Bytes have one written form by the rule. -/
theorem Writes.unique (h : Writes bytes text) (h' : Writes bytes text') : text = text' := by
  obtain ⟨values, signs, padding, hbits, hsigns, hpadding, rfl⟩ := h
  obtain ⟨values', signs', padding', hbits', hsigns', hpadding', rfl⟩ := h'
  have hlength := congrArg List.length hbits
  have hlength' := congrArg List.length hbits'
  rw [List.length_append, length_flatMap_bits, length_flatMap_bits, List.length_replicate]
    at hlength hlength'
  -- The number of bits is the same, and a multiple of six on the other side.
  obtain rfl : padding = padding' := by omega
  obtain rfl : values = values' := flatMap_bits_injective (lt_of_forall₂_isSign hsigns)
    (lt_of_forall₂_isSign hsigns') (by omega) (hbits.trans hbits'.symm)
  have hright : Relator.RightUnique IsSign :=
    fun v a b ha hb => Option.some.inj (ha.symm.trans hb)
  rw [List.right_unique_forall₂' hright hsigns hsigns']

/-- **The rule gives one written form**, that of `encode`. -/
theorem writes_iff : Writes bytes text ↔ text = encode bytes := by
  constructor
  · exact fun h => h.unique (writes_encode bytes)
  · rintro rfl
    exact writes_encode bytes

theorem mem_of_mem_encode {b : UInt8} (h : b ∈ encode bytes) : b ∈ pad :: alphabet := by
  obtain ⟨values, signs, padding, -, hsigns, -, htext⟩ := writes_encode bytes
  rw [htext, List.mem_append] at h
  rcases h with h | h
  · exact List.mem_cons_of_mem _ (mem_alphabet_of_forall₂_isSign hsigns b h)
  · rw [List.eq_of_mem_replicate h]
    exact List.mem_cons_self

/-! ## Groups of numbers -/

/-- The number that groups of six bits make. -/
def joined (values : List Nat) : Nat :=
  values.foldl (fun n value => 64 * n + value) 0

/-- The bits of groups that no byte takes. -/
def spareBits (values : List Nat) : Nat :=
  joined values % 2 ^ (6 * values.length % 8)

/-- The bytes of groups. -/
def lastBytes (values : List Nat) : List UInt8 :=
  let count := 6 * values.length / 8
  (List.range count).map fun i =>
    UInt8.ofNat (joined values / 2 ^ (6 * values.length % 8) / 256 ^ (count - 1 - i))

theorem joined_two (i j : Nat) : joined [i, j] = 64 * i + j := by
  simp only [joined, List.foldl_cons, List.foldl_nil]
  omega

theorem joined_three (i j k : Nat) : joined [i, j, k] = 4096 * i + 64 * j + k := by
  simp only [joined, List.foldl_cons, List.foldl_nil]
  omega

theorem joined_four (i j k l : Nat) :
    joined [i, j, k, l] = 262144 * i + 4096 * j + 64 * k + l := by
  simp only [joined, List.foldl_cons, List.foldl_nil]
  omega

theorem spareBits_two (i j : Nat) : spareBits [i, j] = j % 16 := by
  simp only [spareBits, joined_two, List.length_cons, List.length_nil]
  change (64 * i + j) % 16 = j % 16
  omega

theorem spareBits_three (i j k : Nat) : spareBits [i, j, k] = k % 4 := by
  simp only [spareBits, joined_three, List.length_cons, List.length_nil]
  change (4096 * i + 64 * j + k) % 4 = k % 4
  omega

theorem spareBits_four (i j k l : Nat) : spareBits [i, j, k, l] = 0 := by
  simp only [spareBits, List.length_cons, List.length_nil]
  exact Nat.mod_one _

theorem lastBytes_two (i j : Nat) : lastBytes [i, j] = [UInt8.ofNat ((64 * i + j) / 16)] := by
  simp [lastBytes, joined_two, List.range_succ]

theorem lastBytes_three (i j k : Nat) : lastBytes [i, j, k] =
    [UInt8.ofNat ((4096 * i + 64 * j + k) / 4 / 256),
      UInt8.ofNat ((4096 * i + 64 * j + k) / 4)] := by
  simp [lastBytes, joined_three, List.range_succ]

theorem lastBytes_four (i j k l : Nat) : lastBytes [i, j, k, l] =
    [UInt8.ofNat ((262144 * i + 4096 * j + 64 * k + l) / 65536),
      UInt8.ofNat ((262144 * i + 4096 * j + 64 * k + l) / 256),
      UInt8.ofNat (262144 * i + 4096 * j + 64 * k + l)] := by
  simp [lastBytes, joined_four, List.range_succ]

theorem encode_three (hi : i < 64) (hj : j < 64) (hk : k < 64) (hl : l < 64) (rest : List UInt8) :
    encode (UInt8.ofNat ((262144 * i + 4096 * j + 64 * k + l) / 65536) ::
      UInt8.ofNat ((262144 * i + 4096 * j + 64 * k + l) / 256) ::
      UInt8.ofNat (262144 * i + 4096 * j + 64 * k + l) :: rest) =
    sign i :: sign j :: sign k :: sign l :: encode rest := by
  rw [encode]
  simp only [UInt8.toNat_ofNat']
  congr <;> omega

theorem encode_two (hi : i < 64) (hj : j < 64) (hk : k < 64) (hspare : k % 4 = 0) :
    encode [UInt8.ofNat ((4096 * i + 64 * j + k) / 4 / 256),
      UInt8.ofNat ((4096 * i + 64 * j + k) / 4)] = [sign i, sign j, sign k, pad] := by
  rw [encode]
  simp only [UInt8.toNat_ofNat']
  congr <;> omega

theorem encode_one (hi : i < 64) (hj : j < 64) (hspare : j % 16 = 0) :
    encode [UInt8.ofNat ((64 * i + j) / 16)] = [sign i, sign j, pad, pad] := by
  rw [encode]
  simp only [UInt8.toNat_ofNat']
  congr <;> omega

/-- Groups without spare bits are those of the written form of their bytes. -/
theorem encode_lastBytes (hall : ∀ v ∈ values, v < 64) (htwo : 2 ≤ values.length)
    (hfour : values.length ≤ 4) (hspare : spareBits values = 0) :
    encode (lastBytes values) = values.map sign ++ List.replicate (4 - values.length) pad := by
  match values with
  | [i, j] =>
    simp only [List.forall_mem_cons] at hall
    obtain ⟨hi, hj, -⟩ := hall
    rw [spareBits_two] at hspare
    rw [lastBytes_two]
    exact encode_one hi hj hspare
  | [i, j, k] =>
    simp only [List.forall_mem_cons] at hall
    obtain ⟨hi, hj, hk, -⟩ := hall
    rw [spareBits_three] at hspare
    rw [lastBytes_three]
    exact encode_two hi hj hk hspare
  | [i, j, k, l] =>
    simp only [List.forall_mem_cons] at hall
    obtain ⟨hi, hj, hk, hl, -⟩ := hall
    rw [lastBytes_four]
    exact encode_three hi hj hk hl []
  | _ :: _ :: _ :: _ :: _ :: _ =>
    simp only [List.length_cons] at hfour
    omega

theorem ofNat_eq {b : UInt8} (h : n % 256 = b.toNat) : UInt8.ofNat n = b :=
  UInt8.toNat_inj.mp (UInt8.toNat_ofNat'.trans h)

/-- The numbers of up to three bytes have no spare bits, and the bytes are theirs. -/
theorem sextets_spec (hsome : bytes ≠ []) (hthree : bytes.length ≤ 3) :
    spareBits (sextets bytes) = 0 ∧ lastBytes (sextets bytes) = bytes := by
  match bytes with
  | [a] =>
    have ha := a.toNat_lt
    rw [sextets, spareBits_two, lastBytes_two, ofNat_eq (b := a)]
    · exact ⟨Nat.mul_mod_left _ _, rfl⟩
    · omega
  | [a, b] =>
    have ha := a.toNat_lt
    have hb := b.toNat_lt
    rw [sextets, spareBits_three, lastBytes_three, ofNat_eq (b := a), ofNat_eq (b := b)]
    · exact ⟨by omega, rfl⟩
    · omega
    · omega
  | [a, b, c] =>
    have ha := a.toNat_lt
    have hb := b.toNat_lt
    have hc := c.toNat_lt
    rw [sextets, spareBits_four, lastBytes_four, ofNat_eq (b := a), ofNat_eq (b := b),
      ofNat_eq (b := c)]
    · exact ⟨rfl, rfl⟩
    · omega
    · omega
    · omega
  | _ :: _ :: _ :: _ :: _ =>
    simp only [List.length_cons] at hthree
    omega

/-! ## Reading the last group -/

/-- Signs before padding are read, unless the padding begins among the first two. -/
theorem lastValues_run (hvalues : ∀ v ∈ values, v < 64)
    (hpadding : padding = 0 ∨ 2 ≤ index + values.length) :
    lastValues start index (values.map sign ++ List.replicate padding pad) = .ok values := by
  induction values generalizing index with
  | nil =>
    cases padding with
    | zero => rfl
    | succ padding =>
      have hindex : ¬index < 2 := by
        rw [List.length_nil] at hpadding
        omega
      have hall : (List.replicate padding pad).all (· == pad) = true := by simp
      rw [List.map_nil, List.nil_append, List.replicate_succ, lastValues, if_pos rfl,
        if_neg hindex, if_pos hall]
  | cons v values ih =>
    rw [List.forall_mem_cons] at hvalues
    rw [List.length_cons] at hpadding
    have hlater : lastValues start (index + 1) (values.map sign ++ List.replicate padding pad) =
        .ok values := ih hvalues.2 (by omega)
    rw [List.map_cons, List.cons_append, lastValues, if_neg (sign_ne_pad v hvalues.1),
      valueAt_sign _ hvalues.1, hlater]
    rfl

/-- Nothing else is read. -/
theorem lastValues_eq_ok (h : lastValues start index group = .ok values) :
    (∀ v ∈ values, v < 64) ∧
      ∃ padding, group = values.map sign ++ List.replicate padding pad ∧
        (padding = 0 ∨ 2 ≤ index + values.length) := by
  induction group generalizing index values with
  | nil =>
    cases h
    exact ⟨nofun, 0, rfl, .inl rfl⟩
  | cons byte rest ih =>
    rw [lastValues] at h
    split_ifs at h with hpad hindex hall
    · cases h
      have hrest : rest = List.replicate rest.length pad :=
        List.eq_replicate_of_mem fun b hb => by simpa using List.all_eq_true.mp hall b hb
      refine ⟨nofun, rest.length + 1, ?_, .inr (by omega)⟩
      rw [hpad, List.map_nil, List.nil_append, List.replicate_succ, ← hrest]
    · obtain ⟨v, hv, h⟩ := bind_eq_ok_iff.mp h
      obtain ⟨later, hlater, h⟩ := bind_eq_ok_iff.mp h
      cases h
      obtain ⟨hlt, rfl⟩ := valueAt_eq_ok_iff.mp hv
      obtain ⟨hall, padding, rfl, hpadding⟩ := ih hlater
      refine ⟨List.forall_mem_cons.mpr ⟨hlt, hall⟩, padding, rfl, ?_⟩
      rw [List.length_cons]
      omega

theorem lastGroup_of_values (h : lastValues start 0 group = .ok values)
    (hlength : 2 ≤ values.length) : lastGroup start group = .ok bytes ↔
      group.length = 4 ∧ spareBits values = 0 ∧ bytes = lastBytes values := by
  match values with
  | i :: j :: more =>
    rw [lastGroup, h]
    dsimp only [bind, Except.bind]
    split_ifs with hlong hspare
    · exact iff_of_false nofun fun h => hlong h.1
    · exact iff_of_false nofun fun h => hspare h.2.1
    · rw [ne_eq, not_not] at hlong hspare
      rw [pure_eq_ok_iff, and_iff_right hlong, eq_comm]
      exact (and_iff_right hspare).symm

/-- **What is read from the last group**: it is the written form of at most three bytes. -/
theorem lastGroup_eq_ok_iff :
    lastGroup start group = .ok bytes ↔ group = encode bytes ∧ bytes.length ≤ 3 := by
  constructor
  · intro h
    cases hvalues : lastValues start 0 group with
    | error fault =>
      rw [lastGroup, hvalues] at h
      cases h
    | ok values =>
      obtain ⟨hall, padding, rfl, hpadding⟩ := lastValues_eq_ok hvalues
      match values with
      | [] =>
        obtain rfl : padding = 0 := by
          rw [List.length_nil] at hpadding
          omega
        cases h
        exact ⟨rfl, Nat.zero_le 3⟩
      | [v] =>
        rw [lastGroup, hvalues] at h
        cases h
      | i :: j :: more =>
        have htwo : 2 ≤ (i :: j :: more).length := by simp
        obtain ⟨hlength, hspare, rfl⟩ := (lastGroup_of_values hvalues htwo).mp h
        rw [List.length_append, List.length_map, List.length_replicate] at hlength
        rw [encode_lastBytes hall htwo (by omega) hspare, lastBytes, List.length_map,
          List.length_range]
        exact ⟨by rw [← hlength, Nat.add_sub_cancel_left], by omega⟩
  · rintro ⟨rfl, hthree⟩
    by_cases hsome : bytes = []
    · rw [hsome]
      rfl
    · have hpos := List.length_pos_iff.mpr hsome
      have hlength := length_sextets hsome hthree
      have hvalues : lastValues start 0 (encode bytes) = .ok (sextets bytes) := by
        rw [encode_of_short hsome hthree]
        exact lastValues_run (sextets_lt bytes) (.inr (by omega))
      obtain ⟨hspare, hbytes⟩ := sextets_spec hsome hthree
      refine (lastGroup_of_values hvalues (by omega)).mpr ⟨?_, hspare, hbytes.symm⟩
      rw [length_encode]
      omega

/-! ## Reading -/

theorem decodeFrom_eq_ok_iff : decodeFrom start text = .ok bytes ↔ text = encode bytes := by
  induction start, text using decodeFrom.induct generalizing bytes with
  | case1 start a b c d e rest ih =>
    rw [decodeFrom]
    constructor
    · intro h
      obtain ⟨i, ha, h⟩ := bind_eq_ok_iff.mp h
      obtain ⟨j, hb, h⟩ := bind_eq_ok_iff.mp h
      obtain ⟨k, hc, h⟩ := bind_eq_ok_iff.mp h
      obtain ⟨l, hd, h⟩ := bind_eq_ok_iff.mp h
      obtain ⟨later, hlater, h⟩ := bind_eq_ok_iff.mp h
      cases h
      obtain ⟨hi, rfl⟩ := valueAt_eq_ok_iff.mp ha
      obtain ⟨hj, rfl⟩ := valueAt_eq_ok_iff.mp hb
      obtain ⟨hk, rfl⟩ := valueAt_eq_ok_iff.mp hc
      obtain ⟨hl, rfl⟩ := valueAt_eq_ok_iff.mp hd
      rw [encode_three hi hj hk hl, ← ih.mp hlater]
    · intro h
      match bytes with
      | [] | [_] | [_, _] =>
        have hlength := congrArg List.length h
        rw [length_encode] at hlength
        simp at hlength
      | x :: y :: z :: more =>
        have hx := x.toNat_lt
        have hy := y.toNat_lt
        have hz := z.toNat_lt
        rw [encode] at h
        obtain ⟨rfl, rfl, rfl, rfl, hmore⟩ := by simpa only [List.cons.injEq] using h
        refine bind_eq_ok_iff.mpr ⟨_, valueAt_sign _ (by omega), ?_⟩
        refine bind_eq_ok_iff.mpr ⟨_, valueAt_sign _ (by omega), ?_⟩
        refine bind_eq_ok_iff.mpr ⟨_, valueAt_sign _ (by omega), ?_⟩
        refine bind_eq_ok_iff.mpr ⟨_, valueAt_sign _ (by omega), ?_⟩
        refine bind_eq_ok_iff.mpr ⟨more, ih.mpr hmore, ?_⟩
        rw [pure_eq_ok_iff, ofNat_eq (b := x), ofNat_eq (b := y), ofNat_eq (b := z)] <;> omega
  | case2 start group hshort =>
    have hgroup : group.length ≤ 4 := by
      match group with
      | [] | [_] | [_, _] | [_, _, _] | [_, _, _, _] => simp
      | a :: b :: c :: d :: e :: rest => exact absurd rfl (hshort a b c d e rest)
    rw [decodeFrom, lastGroup_eq_ok_iff, and_iff_left_iff_imp]
    · rintro rfl
      rw [length_encode] at hgroup
      omega
    · exact hshort

/-- **Reading accepts the written form of bytes and nothing else.** -/
theorem decode_eq_ok_iff : decode text = .ok bytes ↔ text = encode bytes := by
  rw [decode]
  split
  · next byte hlast =>
    split_ifs with hforeign
    · refine iff_of_false nofun ?_
      rintro rfl
      rw [length_encode, Nat.mul_mod_right] at hforeign
      omega
    · exact decodeFrom_eq_ok_iff
  · next hlast =>
    rw [List.getLast?_eq_none_iff] at hlast
    have hnothing : decodeFrom 0 [] = .ok bytes ↔ [] = encode bytes := decodeFrom_eq_ok_iff
    rw [hlast]
    exact hnothing

theorem exists_decode_eq_error_iff :
    (∃ fault, decode text = .error fault) ↔ ∀ bytes, text ≠ encode bytes := by
  simp only [ne_eq, ← decode_eq_ok_iff]
  cases decode text with
  | error fault => simp
  | ok bytes => simp

end SessionReplay.Base64
