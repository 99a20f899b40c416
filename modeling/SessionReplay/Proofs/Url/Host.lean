import Mathlib.Tactic.IntervalCases
import SessionReplay.Proofs.Outcome
import SessionReplay.Proofs.Url.Ipv4
import SessionReplay.Proofs.Url.Ipv6
import SessionReplay.Proofs.Url.Percent
import SessionReplay.Url.Host

/-!
# Hosts and their texts

* `asciiName?` — the basic form of a name whose escapes are read;
* `asciiName?_append_dot`, `asciiName?_eq_none`: full stops split it, white space and brackets have
  no place in it;
* `parse_cases`: a text writes an address in brackets, or its basic form a name or an address;
* `text_of_parse_name`, `text_of_parse_ipv4_text`, `parse_ipv6_text`: the text of a host is read as a
  host with that text.
-/

namespace SessionReplay.Url.Host

open Idna (toAscii? IsPermitted IsSmall)

variable {c : Char} {cs xs ys ascii : List Char} {s : String} {h : Host} {n : Nat}
  {groups : List Nat}

/-! ## Basic forms -/

/-- The basic form of a name whose escapes are read. -/
def asciiName? (cs : List Char) : Option (List Char) :=
  (decodeChars? cs).bind toAscii?

theorem parseName_eq (cs : List Char) :
    parseName cs = match asciiName? cs with
      | none => .error .domainName
      | some ascii => ofAscii ascii := by
  rw [parseName, asciiName?, decodeChars?]
  cases Text.ofBytes? (decodeBytes (Text.bytes (String.ofList cs))) <;> rfl

theorem isSmall_of_isPermitted (h : IsPermitted c) : IsSmall c :=
  ⟨h.1, Idna.isUpper_of_not_forbidden h.2⟩

theorem isPermitted_of_mem_asciiName? (h : asciiName? cs = some ascii) :
    ∀ c ∈ ascii, IsPermitted c := by
  obtain ⟨decoded, -, hdecoded⟩ := Option.bind_eq_some_iff.mp h
  exact Idna.toAscii?_chars hdecoded

/-- A basic form is its own basic form, if it has one. -/
theorem asciiName?_of_isPermitted (hcs : ∀ c ∈ cs, IsPermitted c) (h : asciiName? cs = some ascii) :
    ascii = cs := by
  have hplain : ∀ c ∈ cs, c ≠ '%' := by
    rintro c hc rfl
    exact absurd (hcs '%' hc) (by decide)
  rw [asciiName?, decodeChars?_of_ne hplain, Option.bind_some] at h
  exact Idna.toAscii?_of_small (fun c hc => isSmall_of_isPermitted (hcs c hc)) h

theorem asciiName?_nil (h : asciiName? [] = some ascii) : ascii = [] :=
  asciiName?_of_isPermitted (by simp) h

/-- **Full stops split a basic form.** -/
theorem asciiName?_append_dot (h : asciiName? (xs ++ '.' :: ys) = some ascii) : ∃ front behind,
    asciiName? xs = some front ∧ asciiName? ys = some behind ∧ ascii = front ++ '.' :: behind := by
  have hdot : IsOutsideChar '.' := isOutsideChar_of_basic (by decide)
  obtain ⟨decoded, hdecoded, h⟩ := Option.bind_eq_some_iff.mp h
  obtain ⟨dx, dy, hdx, hdy, rfl⟩ := (decodeChars?_append_cons hdot).mp hdecoded
  obtain ⟨front, behind, hfront, hbehind, rfl⟩ := Idna.toAscii?_append_dot h
  refine ⟨front, behind, ?_, ?_, rfl⟩
  · rw [asciiName?, hdx, Option.bind_some, hfront]
  · rw [asciiName?, hdy, Option.bind_some, hbehind]

theorem asciiName?_append_dots {count : Nat}
    (h : asciiName? (xs ++ List.replicate count '.') = some ascii) : ∃ front,
      asciiName? xs = some front ∧ ascii = front ++ List.replicate count '.' := by
  induction count generalizing ascii with
  | zero =>
    rw [List.replicate_zero, List.append_nil] at h
    exact ⟨ascii, h, (List.append_nil _).symm⟩
  | succ count ih =>
    rw [List.replicate_succ', ← List.append_assoc] at h
    obtain ⟨front, behind, hfront, hbehind, rfl⟩ := asciiName?_append_dot h
    obtain ⟨front, hxs, rfl⟩ := ih hfront
    rw [asciiName?_nil hbehind]
    exact ⟨front, hxs, by rw [List.replicate_succ', List.append_assoc]⟩

/-- White space as a basic character. -/
theorem basic_of_isBlank (hc : Text.isBlank c = true) (hlow : c.toNat < 0x80) :
    c ∈ ['\t', '\n', '\x0B', '\x0C', '\r', ' '] := by
  have hcode : 9 ≤ c.toNat ∧ c.toNat ≤ 13 ∨ c.toNat = 32 := by
    simp only [Text.isBlank, Bool.or_eq_true, Bool.and_eq_true, decide_eq_true_eq, beq_iff_eq] at hc
    omega
  rw [← Char.ofNat_toNat c]
  rcases hcode with ⟨hfirst, hlast⟩ | hspace
  · interval_cases c.toNat <;> decide
  · rw [hspace]
    decide

/-- White space and the bracket come from no escape, and are mapped to a sign that is forbidden. -/
theorem mapChar?_forbidden (hc : Text.isBlank c = true ∨ c = '[') : IsOutsideChar c ∧
    ∃ d, Idna.mapChar? c = some [d] ∧ Unicode.isLone d = true ∧ Idna.isForbidden d = true := by
  have hsigns : ∀ d ∈ ['\t', '\n', '\x0B', '\x0C', '\r', ' ', '['],
      (d.toNat ≠ '%'.toNat ∧ Text.hexValue? d.toNat = none) ∧ Idna.mapChar? d = some [d] ∧
        Unicode.isLone d = true ∧ Idna.isForbidden d = true := by
    simp only [List.forall_mem_cons, List.not_mem_nil, false_implies, implies_true, and_true]
    decide
  have hlow : c.toNat < 0x80 → c ∈ ['\t', '\n', '\x0B', '\x0C', '\r', ' ', '['] := by
    intro hlow
    rcases hc with hc | rfl
    · exact List.mem_append_left ['['] (basic_of_isBlank hc hlow)
    · decide
  refine ⟨isOutsideChar_of_basic fun h => (hsigns c (hlow h)).1, ?_⟩
  by_cases h : c.toNat < 0x80
  · exact ⟨c, (hsigns c (hlow h)).2⟩
  · have hblank : Text.isBlank c = true := by
      refine hc.resolve_right ?_
      rintro rfl
      exact h (by decide)
    exact ⟨' ', by rw [Idna.mapChar?, if_neg h, if_pos hblank], by decide, by decide⟩

/-- **White space and brackets** have no place in a name. -/
theorem asciiName?_eq_none (hc : Text.isBlank c = true ∨ c = '[') (xs ys : List Char) :
    asciiName? (xs ++ c :: ys) = none := by
  obtain ⟨houtside, d, hmap, hlone, hforbidden⟩ := mapChar?_forbidden hc
  rw [Option.eq_none_iff_forall_ne_some]
  intro ascii h
  obtain ⟨decoded, hdecoded, h⟩ := Option.bind_eq_some_iff.mp h
  obtain ⟨dx, dy, -, -, rfl⟩ := (decodeChars?_append_cons houtside).mp hdecoded
  rw [Idna.toAscii?_eq_none hmap hlone hforbidden] at h
  cases h

/-! ## What a text writes -/

theorem ofAscii_eq_ok_iff : ofAscii ascii = .ok h ↔ ascii ≠ [] ∧
    (Ipv4.endsInNumber ascii = false ∧ h = name (String.ofList ascii) ∨
      Ipv4.endsInNumber ascii = true ∧ ∃ n, Ipv4.parse ascii = .ok n ∧ h = ipv4 n) := by
  rw [ofAscii]
  split_ifs with hempty hnumber
  · simp [List.isEmpty_iff.mp hempty]
  · rw [map_eq_ok_iff]
    simp [hnumber, List.isEmpty_iff.not.mp hempty, eq_comm]
  · simp [Bool.eq_false_iff.mpr hnumber, List.isEmpty_iff.not.mp hempty, eq_comm]

/-- **A text writes** an address of eight groups in brackets, or a basic form of a name that is a
host name or an address of four bytes. -/
theorem parse_cases (hs : parse s = .ok h) :
    (∃ inner groups, s.toList = '[' :: (inner ++ [']']) ∧ Ipv6.parse inner = .ok groups ∧
      h = ipv6 groups) ∨
    (s.toList.head? ≠ some '[' ∧ ∃ ascii, asciiName? s.toList = some ascii ∧
      ofAscii ascii = .ok h) := by
  unfold parse bracketed at hs
  split at hs
  · next rest hrest =>
    split_ifs at hs with hlast
    obtain ⟨groups, hgroups, rfl⟩ := map_eq_ok_iff.mp hs
    obtain ⟨inner, rfl⟩ := List.getLast?_eq_some_iff.mp hlast
    rw [List.dropLast_concat] at hgroups
    exact .inl ⟨inner, groups, hrest, hgroups, rfl⟩
  · next hbracket =>
    refine .inr ⟨?_, ?_⟩
    · intro hhead
      obtain ⟨rest, hrest⟩ := List.head?_eq_some_iff.mp hhead
      exact hbracket rest hrest
    · rw [parseName_eq] at hs
      split at hs
      · cases hs
      · next ascii hascii => exact ⟨ascii, hascii, hs⟩

theorem parse_of_asciiName? (hhead : s.toList.head? ≠ some '[')
    (hascii : asciiName? s.toList = some ascii) : parse s = ofAscii ascii := by
  unfold parse bracketed
  split
  · next rest hrest =>
    rw [hrest] at hhead
    exact absurd rfl hhead
  · rw [parseName_eq, hascii]

/-! ## The texts of hosts -/

/-- A text of basic characters that are not forbidden. -/
def IsPermittedText (s : String) : Prop :=
  ∀ c ∈ s.toList, IsPermitted c

theorem asciiLower_of_isPermitted (hs : IsPermittedText s) : Text.asciiLower s = s := by
  rw [Text.asciiLower, ← String.toList_inj, String.toList_map]
  refine (List.map_congr_left fun c hc => ?_).trans (List.map_id _)
  exact Idna.toLower_of_isSmall (isSmall_of_isPermitted (hs c hc))

/-- Such a text is its own basic form, if it is read at all. -/
theorem ofAscii_of_parse (hs : IsPermittedText s) (hread : parse s = .ok h) :
    ofAscii s.toList = .ok h := by
  rcases parse_cases hread with ⟨inner, groups, hs', -⟩ | ⟨-, ascii, hascii, hread⟩
  · have hbracket : IsPermitted '[' := hs '[' (hs' ▸ List.mem_cons_self)
    exact absurd hbracket (by decide)
  · rwa [asciiName?_of_isPermitted hs hascii] at hread

/-- A name that is no number is read as itself. -/
theorem text_of_parse_name (hs : IsPermittedText s) (hnumber : Ipv4.endsInNumber s.toList = false)
    (hread : parse s = .ok h) : h.text = s := by
  rcases (ofAscii_eq_ok_iff.mp (ofAscii_of_parse hs hread)).2 with ⟨-, rfl⟩ | ⟨hnumber', -⟩
  · exact String.ofList_toList
  · rw [hnumber] at hnumber'
    cases hnumber'

theorem isPermitted_of_isDigit (hc : c.isDigit = true) : IsPermitted c := by
  rw [Char.isDigit, Bool.and_eq_true, decide_eq_true_eq, decide_eq_true_eq] at hc
  obtain ⟨hfirst, hlast⟩ := hc
  have hfirst : 48 ≤ c.toNat := hfirst
  have hlast : c.toNat ≤ 57 := hlast
  rw [← Char.ofNat_toNat c]
  interval_cases c.toNat <;> decide

theorem isPermitted_ipv4_text (n : Nat) : IsPermittedText (Ipv4.text n) := by
  intro c hc
  rw [Ipv4.toList_text] at hc
  rcases Ipv4.mem_bytesText hc with rfl | hdigit
  · decide
  · exact isPermitted_of_isDigit hdigit

/-- The text of an address of four bytes is read as itself. -/
theorem text_of_parse_ipv4_text (hread : parse (Ipv4.text n) = .ok h) : h.text = Ipv4.text n := by
  rcases (ofAscii_eq_ok_iff.mp (ofAscii_of_parse (isPermitted_ipv4_text n) hread)).2 with
    ⟨-, rfl⟩ | ⟨-, m, hparse, rfl⟩
  · exact String.ofList_toList
  · exact Ipv4.text_of_parse_text hparse

/-- The text of an address of eight groups is read as that address. -/
theorem parse_ipv6_text (hlength : groups.length = 8) (hlt : ∀ n ∈ groups, n < 65536) :
    parse (ipv6 groups).text = .ok (ipv6 groups) := by
  have hchars : (ipv6 groups).text.toList = '[' :: ((Ipv6.text groups).toList ++ [']']) := by
    rw [text, String.toList_append, String.toList_append]
    rfl
  unfold parse bracketed
  rw [hchars]
  refine (if_pos List.getLast?_concat).trans ?_
  rw [List.dropLast_concat, Ipv6.parse_text hlength hlt]
  rfl

end SessionReplay.Url.Host
