import Mathlib.Data.List.Forall2
import SessionReplay.Json.Shape
import SessionReplay.Proofs.Json.Text

/-!
# Spellings of numbers

* `WritesDigits`, `Literal.Writes` — how digits and whole literals are written;
* `WritesInteger`, `WritesFloat` — how an integer is written, and a number that a literal gives;
* **`Literal.scan_run`**: a literal is read as it is written;
* `Reader.integer_reads`, `Reader.float_reads`: so are numbers;
* `skipNumber_run`: a literal is passed over.
-/

namespace SessionReplay.Json

/-! ## Spellings -/

/-- Decimal digits. -/
def WritesDigits (ds : List Nat) (v : List UInt8) : Prop :=
  List.Forall₂ (fun d b => d < 10 ∧ b = (Nat.digitChar d).toUInt8) ds v

/-- Digits after a point, if there are any. -/
def WritesFraction (ds : List Nat) (v : List UInt8) : Prop :=
  ds = [] ∧ v = [] ∨ ds ≠ [] ∧ ∃ digits, WritesDigits ds digits ∧ v = '.'.toUInt8 :: digits

/-- Digits after a letter and a sign, which may be missing if it is no minus. -/
def WritesExponent : Option (Bool × List Nat) → List UInt8 → Prop
  | none, v => v = []
  | some (minus, ds), v => ds ≠ [] ∧ ∃ letter sign digits,
    (letter = 'e'.toUInt8 ∨ letter = 'E'.toUInt8) ∧
    (minus = true ∧ sign = ['-'.toUInt8] ∨
      minus = false ∧ (sign = [] ∨ sign = ['+'.toUInt8])) ∧
    WritesDigits ds digits ∧ v = letter :: (sign ++ digits)

/-- A literal has a digit before the point, and only one if that is zero. -/
def Literal.Writes (l : Literal) (v : List UInt8) : Prop :=
  ∃ first later whole fraction exponent, l.whole = first :: later ∧ (first = 0 → later = []) ∧
    WritesDigits l.whole whole ∧ WritesFraction l.fraction fraction ∧
    WritesExponent l.exponent exponent ∧
    v = (if l.negative then ['-'.toUInt8] else []) ++ (whole ++ (fraction ++ exponent))

/-- An integer in plain decimal, which fits the machine. -/
def WritesInteger (n : Int) (v : List UInt8) : Prop :=
  Word64.fitsSigned n = true ∧ v = Text.bytes (toString n)

/-- A literal that stands for a number. -/
def WritesFloat (t : Float) (v : List UInt8) : Prop :=
  ∃ l : Literal, l.Writes v ∧ (l.number = .ok (.float t) ∨
    ∃ n, l.number = .ok (.integer n) ∧ Float.ofInt n = t)

/-! ## Digits -/

variable {d : Nat} {ds : List Nat} {b : UInt8} {v rest : List UInt8} {atEnd : Fault}

theorem isSeparator_iff : isSeparator b = true ↔
    b ∈ [' '.toUInt8, '\n'.toUInt8, '\t'.toUInt8, '\r'.toUInt8, ','.toUInt8, ']'.toUInt8,
      '\x7d'.toUInt8] := by
  simp only [isSeparator, Bool.or_eq_true, isBlank_iff, beq_iff_eq, List.mem_cons, List.not_mem_nil,
    or_false, or_assoc]

/-- No digit follows. -/
def NoDigit (rest : List UInt8) : Prop :=
  ∀ b ∈ rest.head?, digit? b = none

theorem digit?_digitChar (h : d < 10) : digit? (Nat.digitChar d).toUInt8 = some d := by
  revert d
  decide

theorem noDigit_of_delimited (h : Delimited rest) : NoDigit rest := by
  have hall : ∀ b ∈ [' '.toUInt8, '\n'.toUInt8, '\t'.toUInt8, '\r'.toUInt8, ','.toUInt8,
      ']'.toUInt8, '\x7d'.toUInt8], digit? b = none := by decide +kernel
  exact fun b hb => hall b (isSeparator_iff.mp (h b hb))

theorem scanDigits_append (h : WritesDigits ds v) (hrest : NoDigit rest) :
    scanDigits (v ++ rest) = (ds, rest) := by
  induction h with
  | nil =>
    cases rest with
    | nil => rfl
    | cons b rest =>
      rw [List.nil_append, scanDigits, hrest b rfl]
  | cons hd _ ih =>
    obtain ⟨hlt, rfl⟩ := hd
    rw [List.cons_append, scanDigits, digit?_digitChar hlt, ih]

theorem manyDigits_run (h : WritesDigits ds v) (hrest : NoDigit rest) :
    manyDigits.run (v ++ rest) = .ok (ds, rest) :=
  congrArg Except.ok (scanDigits_append h hrest)

theorem front_run (s : List UInt8) : front.run s = .ok (s.head?, s) := rfl

theorem oneDigit_run (h : d < 10) (s : List UInt8) :
    (oneDigit atEnd).run ((Nat.digitChar d).toUInt8 :: s) = .ok (d, s) := by
  simp only [oneDigit, Reader.run_bind, front_run, List.head?_cons, digit?_digitChar h,
    Reader.run_skip, Reader.run_pure]

theorem someDigits_run (h : WritesDigits ds v) (hds : ds ≠ []) (hrest : NoDigit rest) :
    (someDigits atEnd).run (v ++ rest) = .ok (ds, rest) := by
  cases h with
  | nil => exact absurd rfl hds
  | cons hd hlater =>
    obtain ⟨hlt, rfl⟩ := hd
    simp only [someDigits, List.cons_append, Reader.run_bind, oneDigit_run hlt,
      manyDigits_run hlater hrest, Reader.run_pure]

theorem wholeDigits_run {first : Nat} (h : WritesDigits ds v) (hzero : first = 0 → ds = [])
    (hrest : NoDigit rest) : (wholeDigits first).run (v ++ rest) = .ok (first :: ds, rest) := by
  rw [wholeDigits]
  split_ifs with h0
  · obtain rfl := hzero h0
    cases h
    have hnext : rest.head?.bind digit? = none := Option.bind_eq_none_iff.mpr hrest
    simp only [List.nil_append, Reader.run_bind, front_run, hnext, Option.isSome_none,
      Bool.false_eq_true, if_false, Reader.run_pure, h0]
  · simp only [Reader.run_bind, manyDigits_run h hrest, Reader.run_pure]

/-! ## Literals -/

theorem head?_ne_of_delimited (h : Delimited rest) : rest.head? ≠ some '.'.toUInt8 ∧
    rest.head? ≠ some 'e'.toUInt8 ∧ rest.head? ≠ some 'E'.toUInt8 := by
  have hne (b : UInt8) (hb : isSeparator b = false) : rest.head? ≠ some b := by
    intro hhead
    rw [h b hhead] at hb
    cases hb
  exact ⟨hne _ rfl, hne _ rfl, hne _ rfl⟩

/-- Digits begin with no sign. -/
theorem head?_ne_of_writesDigits (h : WritesDigits ds v) (hds : ds ≠ []) (rest : List UInt8) :
    (v ++ rest).head? ≠ some '+'.toUInt8 ∧ (v ++ rest).head? ≠ some '-'.toUInt8 := by
  cases h with
  | nil => exact absurd rfl hds
  | @cons d b _ _ hd _ =>
    obtain ⟨hlt, rfl⟩ := hd
    have hne (b : UInt8) (hb : digit? b = none) : some (Nat.digitChar d).toUInt8 ≠ some b := by
      intro heq
      rw [← Option.some.inj heq, digit?_digitChar hlt] at hb
      cases hb
    exact ⟨hne _ rfl, hne _ rfl⟩

theorem exponentDigits_run {e : Option (Bool × List Nat)} (h : WritesExponent e v)
    (hrest : Delimited rest) : (exponentDigits atEnd).run (v ++ rest) = .ok (e, rest) := by
  cases e with
  | none =>
    obtain rfl := h
    obtain ⟨-, hlower, hupper⟩ := head?_ne_of_delimited hrest
    simp only [exponentDigits, List.nil_append, Reader.run_bind, front_run, hlower, hupper, or_self,
      if_false, Reader.run_pure]
  | some e =>
    obtain ⟨minus, ds⟩ := e
    obtain ⟨hds, letter, sign, digits, hletter, hsign, hdigits, rfl⟩ := h
    have hread : (someDigits atEnd).run (digits ++ rest) = .ok (ds, rest) :=
      someDigits_run hdigits hds (noDigit_of_delimited hrest)
    have hletter : some letter = some 'e'.toUInt8 ∨ some letter = some 'E'.toUInt8 :=
      hletter.imp (congrArg some) (congrArg some)
    rw [exponentDigits, List.cons_append, Reader.run_bind_of_ok (front_run _), List.head?_cons,
      if_pos hletter, Reader.run_bind_of_ok (Reader.run_skip _ _),
      Reader.run_bind_of_ok (front_run _)]
    obtain ⟨rfl, rfl⟩ | ⟨rfl, rfl | rfl⟩ := hsign
    · simp only [List.cons_append, List.nil_append, List.head?_cons, or_true, if_true,
        Reader.run_bind, Reader.run_skip, hread, decide_true, Reader.run_pure]
    · obtain ⟨hplus, hminus⟩ := head?_ne_of_writesDigits hdigits hds rest
      simp only [List.nil_append, hplus, hminus, or_self, if_false, Reader.run_bind, hread,
        decide_false, Reader.run_pure]
    · have hminus : some '+'.toUInt8 ≠ some '-'.toUInt8 := by decide
      simp only [List.cons_append, List.nil_append, List.head?_cons, true_or, if_true,
        Reader.run_bind, Reader.run_skip, hread, hminus, decide_false, Reader.run_pure]

theorem fractionDigits_run (h : WritesFraction ds v) (hrest : NoDigit rest)
    (hpoint : rest.head? ≠ some '.'.toUInt8) :
    (fractionDigits atEnd).run (v ++ rest) = .ok (ds, rest) := by
  obtain ⟨rfl, rfl⟩ | ⟨hds, digits, hdigits, rfl⟩ := h
  · simp only [fractionDigits, List.nil_append, Reader.run_bind, front_run, if_neg hpoint,
      Reader.run_pure]
  · simp only [fractionDigits, List.cons_append, Reader.run_bind, front_run, List.head?_cons,
      if_true, Reader.run_skip, someDigits_run hdigits hds hrest]

/-- An exponent begins with no digit and no point. -/
theorem noDigit_exponent {e : Option (Bool × List Nat)} (h : WritesExponent e v)
    (hrest : Delimited rest) :
    NoDigit (v ++ rest) ∧ (v ++ rest).head? ≠ some '.'.toUInt8 := by
  cases e with
  | none =>
    obtain rfl := h
    exact ⟨noDigit_of_delimited hrest, (head?_ne_of_delimited hrest).1⟩
  | some e =>
    obtain ⟨-, letter, sign, digits, hletter, -, -, rfl⟩ := h
    have hpoint : digit? letter = none ∧ some letter ≠ some '.'.toUInt8 := by
      rcases hletter with rfl | rfl <;> decide
    refine ⟨?_, hpoint.2⟩
    rintro _ ⟨⟩
    exact hpoint.1

theorem noDigit_fraction (h : WritesFraction ds v) (hrest : NoDigit rest) :
    NoDigit (v ++ rest) := by
  obtain ⟨-, rfl⟩ | ⟨-, digits, -, rfl⟩ := h
  · exact hrest
  · rintro _ ⟨⟩
    rfl

/-- What follows the first digit of a literal. -/
theorem wholeDigits_run_literal {first : Nat} {later : List Nat}
    {whole fraction exponent : List UInt8} {e : Option (Bool × List Nat)}
    (hzero : first = 0 → later = [])
    (hwhole : WritesDigits later whole) (hfraction : WritesFraction ds fraction)
    (hexponent : WritesExponent e exponent) (hrest : Delimited rest) :
    (wholeDigits first).run (whole ++ (fraction ++ (exponent ++ rest))) =
        .ok (first :: later, fraction ++ (exponent ++ rest)) ∧
      (∀ atEnd, (fractionDigits atEnd).run (fraction ++ (exponent ++ rest)) =
        .ok (ds, exponent ++ rest)) ∧
      ∀ atEnd, (exponentDigits atEnd).run (exponent ++ rest) = .ok (e, rest) := by
  obtain ⟨hdigit, hpoint⟩ := noDigit_exponent hexponent hrest
  exact ⟨wholeDigits_run hwhole hzero (noDigit_fraction hfraction hdigit),
    fun _ => fractionDigits_run hfraction hdigit hpoint,
    fun _ => exponentDigits_run hexponent hrest⟩

/-- **A literal is read as it is written.** -/
theorem Literal.scan_run {l : Literal} (h : l.Writes v) (hrest : Delimited rest) :
    (Literal.scan atEnd).run (v ++ rest) = .ok (l, rest) := by
  obtain ⟨negative, _, ds, e⟩ := l
  obtain ⟨first, later, whole, fraction, exponent, rfl, hzero, hwhole, hfraction, hexponent, rfl⟩ :=
    h
  have hsign := (head?_ne_of_writesDigits hwhole nofun (fraction ++ (exponent ++ rest))).2
  cases hwhole with
  | cons hfirst hlater =>
    obtain ⟨hlt, rfl⟩ := hfirst
    obtain ⟨hwhole, hfraction, hexponent⟩ :=
      wholeDigits_run_literal hzero hlater hfraction hexponent hrest
    cases negative with
    | true =>
      simp only [scan, if_true, List.append_assoc, List.cons_append, List.nil_append,
        Reader.run_bind, front_run, List.head?_cons, decide_true, Reader.run_skip,
        oneDigit_run hlt, hwhole, hfraction, hexponent, Reader.run_pure]
    | false =>
      rw [List.cons_append] at hsign
      simp only [scan, Bool.false_eq_true, if_false, List.append_assoc, List.cons_append,
        List.nil_append, Reader.run_bind, front_run, hsign, decide_false,
        oneDigit_run hlt, hwhole, hfraction, hexponent, Reader.run_pure]

/-- The first digit of a literal, after which the rest of it is passed over. -/
theorem skipNumber_run {l : Literal} (h : l.Writes v) : ∃ first tail, first < 10 ∧
    v = (if l.negative then ['-'.toUInt8] else []) ++ (Nat.digitChar first).toUInt8 :: tail ∧
      ∀ rest, Delimited rest → (skipNumber first).run (tail ++ rest) = .ok ((), rest) := by
  obtain ⟨negative, _, ds, e⟩ := l
  obtain ⟨first, later, whole, fraction, exponent, rfl, hzero, hwhole, hfraction, hexponent, rfl⟩ :=
    h
  cases hwhole with
  | @cons _ _ _ whole hfirst hlater =>
    obtain ⟨hlt, rfl⟩ := hfirst
    refine ⟨first, whole ++ (fraction ++ exponent), hlt, rfl, fun rest hrest => ?_⟩
    obtain ⟨hwhole, hfraction, hexponent⟩ :=
      wholeDigits_run_literal hzero hlater hfraction hexponent hrest
    simp only [skipNumber, List.append_assoc, Reader.run_bind, hwhole, hfraction, hexponent,
      Reader.run_pure]

/-- A literal begins with a digit or a minus. -/
theorem Literal.Writes.front {l : Literal} (h : l.Writes v) : ∃ b tail, v = b :: tail ∧
    isSeparator b = false ∧ (b = '-'.toUInt8 ∨ (digit? b).isSome = true) := by
  obtain ⟨first, tail, hlt, rfl, -⟩ := skipNumber_run h
  cases l.negative with
  | true => exact ⟨_, _, rfl, rfl, .inl rfl⟩
  | false =>
    have hall : ∀ d < 10, isSeparator (Nat.digitChar d).toUInt8 = false := by decide
    exact ⟨_, _, rfl, hall first hlt, .inr (by rw [digit?_digitChar hlt]; rfl)⟩

theorem begun_of_literal {l : Literal} (h : l.Writes v) : Begun v := by
  obtain ⟨b, tail, hv, hb, -⟩ := h.front
  exact ⟨b, tail, hv, hb⟩

/-! ## Numbers -/

theorem Reader.number?_run {l : Literal} {number : Number} {ws : List UInt8} (h : l.Writes v)
    (hl : l.number = .ok number) (hws : Blanks ws) (hrest : Delimited rest) :
    number?.run (ws ++ (v ++ rest)) = .ok (some number, rest) := by
  have hscan : (Literal.scan .endInValue).run (v ++ rest) = .ok (l, rest) :=
    Literal.scan_run h hrest
  obtain ⟨b, tail, rfl, hb, hfirst⟩ := h.front
  rw [List.cons_append] at hscan ⊢
  simp only [number?, run_bind, run_peek_cons hws (isBlank_of_not_isSeparator hb), if_pos hfirst,
    readNumber, hscan, hl, run_pure]

/-- **A literal is read as the number that it gives.** -/
theorem Reader.float_reads {t : Float} (h : WritesFloat t v) : Reader.float.Reads v t := by
  obtain ⟨l, hl, hnumber⟩ := h
  refine ⟨begun_of_literal hl, fun hws hrest => ?_⟩
  obtain hnumber | ⟨n, hnumber, rfl⟩ := hnumber
  · rw [float, run_bind_of_ok (number?_run hl hnumber hws hrest), run_pure]
  · rw [float, run_bind_of_ok (number?_run hl hnumber hws hrest), run_pure]

/-- The digits of a number. -/
theorem exists_toDigits (n : Nat) : ∃ first later,
    Nat.toDigits 10 n = (first :: later).map Nat.digitChar ∧
    (∀ d ∈ first :: later, d < 10) ∧ digitsNumber (first :: later) = n ∧
      (first = 0 → later = []) := by
  induction n using Nat.strongRecOn with
  | ind n ih =>
    rcases Nat.lt_or_ge n 10 with hlt | hge
    · exact ⟨n, [], Nat.toDigits_of_lt_base hlt, List.forall_mem_singleton.mpr hlt,
        by simp [digitsNumber], fun _ => rfl⟩
    · obtain ⟨first, later, hdigits, hall, hvalue, hzero⟩ := ih (n / 10) (by omega)
      refine ⟨first, later ++ [n % 10], ?_, ?_, ?_, fun h0 => ?_⟩
      · rw [Nat.toDigits_of_base_le (by decide) hge, hdigits, ← List.cons_append, List.map_append]
        rfl
      · rw [← List.cons_append, List.forall_mem_append]
        exact ⟨hall, List.forall_mem_singleton.mpr (Nat.mod_lt _ (by decide))⟩
      · have hlast : digitsNumber (first :: later ++ [n % 10]) =
            10 * digitsNumber (first :: later) + n % 10 := by
          rw [digitsNumber, List.foldl_append]
          rfl
        rw [← List.cons_append, hlast, hvalue]
        omega
      · obtain rfl := hzero h0
        obtain rfl := h0
        have hnone : digitsNumber [0] = 0 := rfl
        omega

theorem writesDigits_toString (n : Nat) : ∃ first later,
    WritesDigits (first :: later) (Text.bytes (toString n)) ∧ digitsNumber (first :: later) = n ∧
      (first = 0 → later = []) := by
  obtain ⟨first, later, hdigits, hall, hvalue, hzero⟩ := exists_toDigits n
  refine ⟨first, later, ?_, hvalue, hzero⟩
  have hbytes : Text.bytes (toString n) =
      (first :: later).map fun d => (Nat.digitChar d).toUInt8 := by
    have hascii : ∀ d < 10,
        String.utf8EncodeChar (Nat.digitChar d) = [(Nat.digitChar d).toUInt8] := by decide
    rw [Text.bytes_eq_flatMap, Nat.toString_eq_ofList_toDigits, String.toList_ofList, hdigits,
      List.flatMap_map, List.map_eq_flatMap]
    exact List.flatMap_congr fun d hd => hascii d (hall d hd)
  rw [WritesDigits, hbytes, List.forall₂_map_right_iff, List.forall₂_same]
  exact fun d hd => ⟨hall d hd, rfl⟩

theorem fits_of_fitsSigned {n : Nat}
    (h : Word64.fitsSigned n = true ∨ Word64.fitsSigned (-n) = true) : Word64.fits n = true := by
  simp only [Word64.fitsSigned, Word64.fits, Bool.and_eq_true, decide_eq_true_iff] at h ⊢
  simp only [Word64.half, Word64.limit] at h ⊢
  omega

/-- The literal of an integer. -/
theorem exists_literal_of_integer {n : Int} (h : WritesInteger n v) :
    ∃ l : Literal, l.Writes v ∧ l.number = .ok (.integer n) := by
  obtain ⟨hfits, rfl⟩ := h
  cases n with
  | ofNat n =>
    obtain ⟨first, later, hdigits, hvalue, hzero⟩ := writesDigits_toString n
    refine ⟨⟨false, first :: later, [], none⟩, ⟨first, later, _, [], [], rfl, hzero, hdigits,
      .inl ⟨rfl, rfl⟩, rfl, ?_⟩, ?_⟩
    · rw [List.append_nil, List.append_nil]
      rfl
    · rw [Literal.number]
      simp only [hvalue]
      rw [if_pos ⟨trivial, trivial, fits_of_fitsSigned (.inl hfits)⟩]
      rfl
  | negSucc n =>
    obtain ⟨first, later, hdigits, hvalue, hzero⟩ := writesDigits_toString (n + 1)
    refine ⟨⟨true, first :: later, [], none⟩, ⟨first, later, _, [], [], rfl, hzero, hdigits,
      .inl ⟨rfl, rfl⟩, rfl, ?_⟩, ?_⟩
    · have hminus : toString (Int.negSucc n) = "-" ++ toString (n + 1) := rfl
      rw [List.append_nil, List.append_nil, hminus, Text.bytes_eq_flatMap, Text.bytes_eq_flatMap,
        String.toList_append, List.flatMap_append]
      rfl
    · have hneg : Int.negSucc n = -((n + 1 : Nat) : Int) := rfl
      rw [hneg] at hfits ⊢
      rw [Literal.number]
      simp only [hvalue]
      rw [if_pos ⟨trivial, trivial, fits_of_fitsSigned (.inr hfits)⟩]
      simp only [Bool.not_true, Bool.false_eq_true, if_false,
        if_pos (And.intro n.succ_ne_zero hfits)]

/-- **An integer is read as it is written.** -/
theorem Reader.integer_reads {n : Int} (h : WritesInteger n v) : Reader.integer.Reads v n := by
  obtain ⟨l, hl, hnumber⟩ := exists_literal_of_integer h
  refine ⟨begun_of_literal hl, fun hws hrest => ?_⟩
  rw [integer, run_bind_of_ok (number?_run hl hnumber hws hrest)]
  simp only [h.1, if_true, run_pure]

end SessionReplay.Json
