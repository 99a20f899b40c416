import SessionReplay.Proofs.DomainFilter.Lists
import SessionReplay.Proofs.Url.Host

/-!
# Domains as they are spelled

A domain of a list may be written in any way in which a host may be written.

* `endDots` — the number of dots at the end of a text;
* `Spells` — the parts of a written domain and of its basic form;
* `exists_spells`: every written name has such parts;
* **`selects_spelled_host`**: a listed text selects the host that it writes if the host does not end
  with more dots than the text.
-/

namespace SessionReplay.DomainFilter

open Text (asciiLower dropEndWhile_append dropEndWhile_of_getLast? isBlank trim trim_of_ends)
open Url (Host)
open Url.Host (reader asciiName? asciiName?_eq_none asciiName?_append_dot asciiName?_append_dots
  asciiName?_nil)

variable {d s : String} {h : Host} {xs ascii lead core plain : List Char} {count more : Nat}

/-! ## Dots at the end -/

/-- The number of dots at the end of a text. -/
def endDots (s : String) : Nat :=
  (s.toList.reverse.takeWhile (· == '.')).length

theorem endDots_of_append (hs : s.toList = xs ++ List.replicate count '.')
    (hxs : xs.getLast? ≠ some '.') : endDots s = count ∧ withoutEndDots s = String.ofList xs := by
  have hdots : ∀ c ∈ List.replicate count '.', (c == '.') = true := by simp
  have hlast : ∀ c ∈ xs.getLast?, (c == '.') = false := by
    rintro c hc
    rw [beq_eq_false_iff_ne]
    rintro rfl
    exact hxs hc
  constructor
  · have hnone : xs.reverse.takeWhile (· == '.') = [] := by
      rw [← List.head?_reverse] at hlast
      cases hrev : xs.reverse with
      | nil => rfl
      | cons c cs =>
        rw [List.takeWhile_cons, hlast c (by rw [hrev]; rfl)]
        rfl
    rw [endDots, hs, List.reverse_append, List.reverse_replicate,
      List.takeWhile_append_of_pos hdots, hnone, List.append_nil, List.length_replicate]
  · rw [withoutEndDots, hs, dropEndWhile_append hdots, dropEndWhile_of_getLast? hlast]

/-- A text is one without dots at its end, and dots. -/
theorem exists_append_dots (cs : List Char) : ∃ front count,
    cs = front ++ List.replicate count '.' ∧ front.getLast? ≠ some '.' := by
  induction cs using List.reverseRecOn with
  | nil => exact ⟨[], 0, rfl, by simp⟩
  | append_singleton cs c ih =>
    by_cases hc : c = '.'
    · obtain ⟨front, count, rfl, hfront⟩ := ih
      exact ⟨front, count + 1, by rw [hc, List.replicate_succ', List.append_assoc], hfront⟩
    · exact ⟨cs ++ [c], 0, (List.append_nil _).symm, by simpa using hc⟩

/-! ## The parts of a written domain -/

/-- The parts of a written domain and of its basic form: perhaps a dot in front, a core, and dots
behind. The basic form of the core may itself end with dots. -/
structure Spells (d : String) (ascii lead core plain : List Char) (more : Nat) : Prop where
  lead_eq : lead = [] ∨ lead = ['.']
  normal : normalDomain reader d = hostText reader (String.ofList core)
  core_head? : core.head? ≠ some '['
  core_ne_nil : core ≠ []
  core_ascii : asciiName? core = some (plain ++ List.replicate more '.')
  plain_ne_nil : plain ≠ []
  plain_getLast? : plain.getLast? ≠ some '.'
  ascii_eq : ascii = lead ++ plain ++ List.replicate (more + endDots d) '.'

/-- A written name has no white space at its ends. -/
theorem trim_of_ascii (hascii : asciiName? d.toList = some ascii) : trim d = d := by
  have hnone : ∀ front c behind, d.toList = front ++ c :: behind → isBlank c = false := by
    intro front c behind hd
    by_contra hblank
    rw [Bool.not_eq_false] at hblank
    rw [hd, asciiName?_eq_none (.inl hblank)] at hascii
    cases hascii
  apply trim_of_ends
  · intro c hc
    obtain ⟨behind, hd⟩ := List.head?_eq_some_iff.mp hc
    exact hnone [] c behind hd
  · intro c hc
    obtain ⟨front, hd⟩ := List.getLast?_eq_some_iff.mp hc
    exact hnone front c [] hd

theorem exists_withoutFirstDot (d : String) : ∃ lead rest, (lead = [] ∨ lead = ['.']) ∧
    d.toList = lead ++ rest ∧ withoutFirstDot d = String.ofList rest := by
  unfold withoutFirstDot
  split
  · next rest hd => exact ⟨['.'], rest, .inr rfl, hd, rfl⟩
  · exact ⟨[], d.toList, .inl rfl, rfl, String.ofList_toList.symm⟩

/-- The dots around a core stand around its basic form. -/
theorem exists_core_ascii (hlead : lead = [] ∨ lead = ['.'])
    (hascii : asciiName? (lead ++ (core ++ List.replicate count '.')) = some ascii) :
    ∃ form, asciiName? core = some form ∧ ascii = lead ++ form ++ List.replicate count '.' := by
  rcases hlead with rfl | rfl
  · exact asciiName?_append_dots hascii
  · have hascii : asciiName? ([] ++ '.' :: (core ++ List.replicate count '.')) = some ascii :=
      hascii
    obtain ⟨front, behind, hfront, hbehind, rfl⟩ := asciiName?_append_dot hascii
    rw [asciiName?_nil hfront]
    obtain ⟨form, hform, rfl⟩ := asciiName?_append_dots hbehind
    exact ⟨form, hform, rfl⟩

/-- **Every written name has such parts**, unless it is made of dots. -/
theorem exists_spells (hascii : asciiName? d.toList = some ascii) (hdots : ¬∀ c ∈ ascii, c = '.') :
    ∃ lead core plain more, Spells d ascii lead core plain more := by
  obtain ⟨lead, rest, hlead, hd, hfirst⟩ := exists_withoutFirstDot d
  obtain ⟨core, count, rfl, hcore⟩ := exists_append_dots rest
  have htrim : trim d = d := trim_of_ascii hascii
  rw [hd] at hascii
  obtain ⟨form, hform, rfl⟩ := exists_core_ascii hlead hascii
  obtain ⟨plain, more, rfl, hplain⟩ := exists_append_dots form
  have hne : plain ≠ [] := by
    rintro rfl
    refine hdots fun c hc => ?_
    rw [List.nil_append, List.append_assoc, List.replicate_append_replicate, List.mem_append] at hc
    rcases hc with hc | hc
    · rcases hlead with rfl | rfl
      · cases hc
      · exact List.mem_singleton.mp hc
    · exact List.eq_of_mem_replicate hc
  have hcore_ne : core ≠ [] := by
    rintro rfl
    exact hne (List.append_eq_nil_iff.mp (asciiName?_nil hform)).1
  have hd' : d.toList = (lead ++ core) ++ List.replicate count '.' := by
    rw [hd, List.append_assoc]
  have hlast : (lead ++ core).getLast? ≠ some '.' := by
    rwa [List.getLast?_append_of_ne_nil _ hcore_ne]
  refine ⟨lead, core, plain, more, hlead, ?_, ?_, hcore_ne, hform, hne, hplain, ?_⟩
  · have hrest : (String.ofList (core ++ List.replicate count '.')).toList =
        core ++ List.replicate count '.' := String.toList_ofList
    rw [normalDomain, htrim, hfirst, (endDots_of_append hrest hcore).2]
  · intro hbracket
    obtain ⟨behind, rfl⟩ := List.head?_eq_some_iff.mp hbracket
    rw [List.cons_append, asciiName?_eq_none (.inr rfl)] at hascii
    cases hascii
  · rw [(endDots_of_append hd' hlast).1, ← List.replicate_append_replicate]
    simp only [List.append_assoc]

/-! ## Normal forms -/

theorem hostText_of_parse (hs : s ≠ "") (hread : Host.parse s = .ok h) :
    hostText reader s = h.text := by
  rw [hostText, if_neg (by simpa using hs), reader, hread]
  rfl

/-- A text that is read as itself, if it is read at all, is its own normal form. -/
theorem hostText_of_fixed (hlower : asciiLower s = s)
    (hread : ∀ h, Host.parse s = .ok h → h.text = s) : hostText reader s = s := by
  rw [hostText]
  split_ifs with hempty
  · exact (String.isEmpty_iff.mp hempty).symm
  · rw [reader]
    cases hparse : Host.parse s with
    | error fault => exact hlower
    | ok h => exact hread h hparse

theorem Spells.isPermitted (hs : Spells d ascii lead core plain more)
    (hascii : asciiName? d.toList = some ascii) : ∀ c ∈ lead ++ plain, Idna.IsPermitted c := by
  intro c hc
  refine Url.Host.isPermitted_of_mem_asciiName? hascii c ?_
  rw [hs.ascii_eq]
  exact List.mem_append_left _ hc

theorem Spells.parse_core (hs : Spells d ascii lead core plain more) :
    Host.parse (String.ofList core) =
      Host.ofAscii (plain ++ List.replicate more '.') := by
  refine Url.Host.parse_of_asciiName? ?_ ?_
  · rw [String.toList_ofList]
    exact hs.core_head?
  · rw [String.toList_ofList]
    exact hs.core_ascii

theorem Spells.ofList_core_ne (hs : Spells d ascii lead core plain more) :
    String.ofList core ≠ "" := by
  rw [ne_eq, ← String.toList_inj, String.toList_ofList]
  exact hs.core_ne_nil

theorem Spells.append_ne_nil (hs : Spells d ascii lead core plain more) : lead ++ plain ≠ [] :=
  List.append_ne_nil_of_right_ne_nil _ hs.plain_ne_nil

theorem Spells.getLast?_append (hs : Spells d ascii lead core plain more) :
    (lead ++ plain).getLast? ≠ some '.' := by
  rw [List.getLast?_append_of_ne_nil _ hs.plain_ne_nil]
  exact hs.plain_getLast?

/-- The core of a name ends in a number if the name does, but for the dots behind it. -/
theorem Spells.endsInNumber_append (hs : Spells d ascii lead core plain more) :
    Url.Ipv4.endsInNumber (lead ++ plain) = Url.Ipv4.endsInNumber plain := by
  rcases hs.lead_eq with rfl | rfl
  · rfl
  · exact Url.Ipv4.endsInNumber_cons_dot plain

theorem Spells.endsInNumber_ascii (hs : Spells d ascii lead core plain more) :
    Url.Ipv4.endsInNumber ascii =
      (decide (more + endDots d ≤ 1) && Url.Ipv4.endsInNumber plain) := by
  rw [hs.ascii_eq, Url.Ipv4.endsInNumber_append_replicate hs.append_ne_nil hs.getLast?_append,
    hs.endsInNumber_append]

theorem Spells.endsInNumber_core (hs : Spells d ascii lead core plain more) :
    Url.Ipv4.endsInNumber (plain ++ List.replicate more '.') =
      (decide (more ≤ 1) && Url.Ipv4.endsInNumber plain) :=
  Url.Ipv4.endsInNumber_append_replicate hs.plain_ne_nil hs.plain_getLast? more

/-- The normal form of a domain that writes no number. -/
theorem Spells.normalDomain_name (hs : Spells d ascii lead core plain more)
    (hnumber : Url.Ipv4.endsInNumber plain = false) :
    normalDomain reader d = String.ofList (plain ++ List.replicate more '.') := by
  have hform : Url.Ipv4.endsInNumber (plain ++ List.replicate more '.') = false := by
    rw [hs.endsInNumber_core, hnumber, Bool.and_false]
  have hparse : Host.parse (String.ofList core) =
      .ok (.name (String.ofList (plain ++ List.replicate more '.'))) := by
    rw [hs.parse_core, Url.Host.ofAscii_eq_ok_iff]
    exact ⟨List.append_ne_nil_of_left_ne_nil hs.plain_ne_nil _, .inl ⟨hform, rfl⟩⟩
  rw [hs.normal, hostText_of_parse hs.ofList_core_ne hparse]
  rfl

/-- The dots at the end of a basic form, and what is left without them. -/
theorem Spells.endDots (hs : Spells d ascii lead core plain more) :
    endDots (String.ofList ascii) = more + DomainFilter.endDots d ∧
      withoutEndDots (String.ofList ascii) = String.ofList (lead ++ plain) := by
  refine endDots_of_append ?_ hs.getLast?_append
  rw [String.toList_ofList, hs.ascii_eq]

/-- The normal form of a host that is no number. -/
theorem Spells.normalHost_name (hs : Spells d ascii lead core plain more)
    (hascii : asciiName? d.toList = some ascii) (hnumber : Url.Ipv4.endsInNumber plain = false) :
    normalHost reader (String.ofList ascii) = String.ofList (lead ++ plain) := by
  have hpermitted : Url.Host.IsPermittedText (String.ofList (lead ++ plain)) := by
    rw [Url.Host.IsPermittedText, String.toList_ofList]
    exact hs.isPermitted hascii
  rw [normalHost, hs.endDots.2]
  refine hostText_of_fixed (Url.Host.asciiLower_of_isPermitted hpermitted) fun h hread => ?_
  refine Url.Host.text_of_parse_name hpermitted ?_ hread
  rw [String.toList_ofList, hs.endsInNumber_append, hnumber]

/-- A host lies in the domain that it is written as, if no dots are left at the end of that. -/
theorem Spells.hostMatches_iff (hs : Spells d ascii lead core plain more) :
    hostMatches (String.ofList (lead ++ plain))
      (String.ofList (plain ++ List.replicate more '.')) = true ↔ more = 0 := by
  rw [hostMatches, Bool.or_eq_true, beq_iff_eq, List.isSuffixOf_iff_suffix, String.toList_ofList,
    String.toList_ofList, String.ofList_inj]
  constructor
  · intro hmatch
    have hsuffix : plain ++ List.replicate more '.' <:+ lead ++ plain := by
      rcases hmatch with heq | hsuffix
      · exact heq ▸ List.suffix_rfl
      · exact (List.suffix_cons '.' _).trans hsuffix
    obtain ⟨front, hfront⟩ := hsuffix
    by_contra hmore
    obtain ⟨count, rfl⟩ := Nat.exists_eq_succ_of_ne_zero hmore
    have hlast := congrArg List.getLast? hfront
    rw [List.replicate_succ', ← List.append_assoc, ← List.append_assoc, List.getLast?_concat,
      List.getLast?_append_of_ne_nil _ hs.plain_ne_nil] at hlast
    exact hs.plain_getLast? hlast.symm
  · rintro rfl
    rw [List.replicate_zero, List.append_nil]
    rcases hs.lead_eq with rfl | rfl
    · exact .inl rfl
    · exact .inr List.suffix_rfl

/-! ## Selection -/

/-- The answers of a filter with one domain, listed once as one to keep and once as one to drop. -/
theorem allows_singleton (hne : normalDomain reader d ≠ "") (host : String) :
    (ofLists reader [d] []).allows reader host =
        hostMatches (normalHost reader host) (normalDomain reader d) ∧
      (ofLists reader [] [d]).allows reader host =
        !hostMatches (normalHost reader host) (normalDomain reader d) := by
  have hdomains : normalDomains reader [d] = [normalDomain reader d] := by
    rw [normalDomains, List.map_singleton, List.filter_cons, if_pos (by simpa using hne)]
    rfl
  constructor
  · rw [allows_eq, inSome, inSome, hdomains]
    simp [normalDomains]
  · rw [allows_eq, inSome, inSome, hdomains]
    simp [normalDomains]

/-- A written address selects its host, in whose text no dots come last. -/
theorem selects_address {text : String} (hne : text ≠ "") (hlast : text.toList.getLast? ≠ some '.')
    (hdomain : normalDomain reader d = text) (hhost : hostText reader text = text) :
    normalDomain reader d ≠ "" ∧
      (hostMatches (normalHost reader text) (normalDomain reader d) = true ↔
        endDots text ≤ endDots d) := by
  have hdots : text.toList = text.toList ++ List.replicate 0 '.' := (List.append_nil _).symm
  obtain ⟨hnone, hwithout⟩ := endDots_of_append hdots hlast
  rw [String.ofList_toList] at hwithout
  rw [normalHost, hwithout, hhost, hdomain, hnone]
  exact ⟨hne, iff_of_true (hostMatches_refl text) (Nat.zero_le _)⟩

theorem selects_ipv6 {inner : List Char} {groups : List Nat}
    (hd : d.toList = '[' :: (inner ++ [']'])) (hread : Host.parse d = .ok (.ipv6 groups))
    (hgroups : Url.Ipv6.parse inner = .ok groups) :
    normalDomain reader d ≠ "" ∧
      (hostMatches (normalHost reader (Host.ipv6 groups).text) (normalDomain reader d) = true ↔
        endDots (Host.ipv6 groups).text ≤ endDots d) := by
  have htext : (Host.ipv6 groups).text.toList =
      '[' :: ((Url.Ipv6.text groups).toList ++ [']']) := by
    rw [Url.Host.text, String.toList_append, String.toList_append]
    rfl
  have hbracket {s : String} {cs : List Char} (hs : s.toList = '[' :: (cs ++ [']'])) :
      s ≠ "" ∧ s.toList.head? = some '[' ∧ s.toList.getLast? = some ']' := by
    refine ⟨?_, by rw [hs]; rfl, by rw [hs, ← List.cons_append, List.getLast?_concat]⟩
    rintro rfl
    cases hs
  obtain ⟨hne, hhead, hlast⟩ := hbracket hd
  obtain ⟨htne, -, htlast⟩ := hbracket htext
  have hplain : withoutEndDots (withoutFirstDot (trim d)) = d := by
    rw [trim_of_ends, withoutFirstDot_of_head?, withoutEndDots, dropEndWhile_of_getLast?,
      String.ofList_toList]
    · simp [hlast]
    · simp [hhead]
    · simp [hhead, isBlank]
    · simp [hlast, isBlank]
  obtain ⟨hlength, hlt⟩ := Url.Ipv6.parse_fits hgroups
  refine selects_address htne (by rw [htlast]; decide) ?_ ?_
  · rw [normalDomain, hplain, hostText_of_parse hne hread]
  · exact hostText_of_parse htne (Url.Host.parse_ipv6_text hlength hlt)

theorem selects_ipv4 {n : Nat} (hs : Spells d ascii lead core plain more)
    (hnumber : Url.Ipv4.endsInNumber ascii = true) (hparse : Url.Ipv4.parse ascii = .ok n) :
    normalDomain reader d ≠ "" ∧
      (hostMatches (normalHost reader (Host.ipv4 n).text) (normalDomain reader d) = true ↔
        endDots (Host.ipv4 n).text ≤ endDots d) := by
  rw [hs.endsInNumber_ascii, Bool.and_eq_true, decide_eq_true_eq] at hnumber
  obtain ⟨hcount, hnumber⟩ := hnumber
  rw [hs.ascii_eq, Url.Ipv4.parse_append_replicate hs.append_ne_nil hs.getLast?_append hcount]
    at hparse
  have hlead : lead = [] := by
    refine hs.lead_eq.resolve_right ?_
    rintro rfl
    rw [List.singleton_append, Url.Ipv4.parse_cons_dot] at hparse
    cases hparse
  rw [hlead, List.nil_append] at hparse
  have hmore : more ≤ 1 := Nat.le_trans (Nat.le_add_right _ _) hcount
  have hcore : Host.parse (String.ofList core) = .ok (.ipv4 n) := by
    rw [hs.parse_core, Url.Host.ofAscii_eq_ok_iff, hs.endsInNumber_core,
      Url.Ipv4.parse_append_replicate hs.plain_ne_nil hs.plain_getLast? hmore, hnumber,
      decide_eq_true hmore]
    exact ⟨List.append_ne_nil_of_left_ne_nil hs.plain_ne_nil _, .inr ⟨rfl, n, hparse, rfl⟩⟩
  have hchars := Url.Ipv4.toList_text n
  refine selects_address ?_ ?_ ?_ ?_
  · rw [ne_eq, ← String.toList_inj, Url.Host.text, hchars]
    exact Url.Ipv4.bytesText_ne_nil
  · rw [Url.Host.text, hchars]
    exact Url.Ipv4.getLast?_bytesText_ne
  · rw [hs.normal, hostText_of_parse hs.ofList_core_ne hcore]
  · exact hostText_of_fixed
      (Url.Host.asciiLower_of_isPermitted (Url.Host.isPermitted_ipv4_text n))
      fun h hread => Url.Host.text_of_parse_ipv4_text hread

theorem selects_name (hs : Spells d ascii lead core plain more)
    (hascii : asciiName? d.toList = some ascii) (hnumber : Url.Ipv4.endsInNumber ascii = false)
    (hshort : endDots (String.ofList ascii) ≤ 1 ∨
      Url.Ipv4.endsInNumber (withoutEndDots (String.ofList ascii)).toList = false) :
    normalDomain reader d ≠ "" ∧
      (hostMatches (normalHost reader (String.ofList ascii)) (normalDomain reader d) = true ↔
        endDots (String.ofList ascii) ≤ endDots d) := by
  obtain ⟨hdots, hwithout⟩ := hs.endDots
  have hplain : Url.Ipv4.endsInNumber plain = false := by
    rw [hwithout, String.toList_ofList, hs.endsInNumber_append] at hshort
    refine hshort.elim (fun hle => ?_) id
    rw [hdots] at hle
    rwa [hs.endsInNumber_ascii, decide_eq_true hle, Bool.true_and] at hnumber
  rw [hs.normalDomain_name hplain, hs.normalHost_name hascii hplain, hs.hostMatches_iff, hdots]
  refine ⟨?_, by omega⟩
  rw [ne_eq, ← String.toList_inj, String.toList_ofList]
  exact List.append_ne_nil_of_left_ne_nil hs.plain_ne_nil _

/-- The normal form of a listed text is a domain in which the host lies that the text writes, if the
host does not end with more dots than the text. -/
theorem selects_of_parse (hread : Host.parse d = .ok h) (hdots : ¬Dots h.text)
    (hshort : endDots h.text ≤ 1 ∨
      Url.Ipv4.endsInNumber (withoutEndDots h.text).toList = false) :
    normalDomain reader d ≠ "" ∧
      (hostMatches (normalHost reader h.text) (normalDomain reader d) = true ↔
        endDots h.text ≤ endDots d) := by
  rcases Url.Host.parse_cases hread with
    ⟨inner, groups, hd, hgroups, rfl⟩ | ⟨-, ascii, hascii, hread⟩
  · exact selects_ipv6 hd hread hgroups
  · rcases (Url.Host.ofAscii_eq_ok_iff.mp hread).2 with ⟨hnumber, rfl⟩ | ⟨hnumber, n, hparse, rfl⟩
    · have hnot : ¬∀ c ∈ ascii, c = '.' := by
        rwa [Url.Host.text, Dots, String.toList_ofList] at hdots
      obtain ⟨lead, core, plain, more, hs⟩ := exists_spells hascii hnot
      exact selects_name hs hascii hnumber hshort
    · have hnot : ¬∀ c ∈ ascii, c = '.' := by
        intro hall
        rw [List.eq_replicate_iff.mpr ⟨rfl, hall⟩, Url.Ipv4.endsInNumber_dots] at hnumber
        cases hnumber
      obtain ⟨lead, core, plain, more, hs⟩ := exists_spells hascii hnot
      exact selects_ipv4 hs hnumber hparse

/-- **A listed text selects the host that it writes**, whether the list keeps or drops, exactly if
the host does not end with more dots than the text: dots that only come from an escape or from
another full stop are not stripped from the text. The host has another text than dots, and is no
number with two dots or more behind it. -/
theorem selects_spelled_host (hread : Host.parse d = .ok h) (hdots : ¬Dots h.text)
    (hshort : endDots h.text ≤ 1 ∨
      Url.Ipv4.endsInNumber (withoutEndDots h.text).toList = false) :
    ((ofLists reader [d] []).allows reader h.text = true ↔ endDots h.text ≤ endDots d) ∧
      ((ofLists reader [] [d]).allows reader h.text = false ↔ endDots h.text ≤ endDots d) := by
  obtain ⟨hne, hmatch⟩ := selects_of_parse hread hdots hshort
  obtain ⟨honly, hskip⟩ := allows_singleton hne h.text
  rw [honly, hskip, Bool.not_eq_false', hmatch]
  exact ⟨Iff.rfl, Iff.rfl⟩

/-- A name with a dot in front and two behind, in capitals and with an escape. -/
theorem selects_spelled_host_capitals :
    Host.parse ".A%42.." = .ok (.name ".ab..") ∧ ¬Dots ".ab.." ∧
      Url.Ipv4.endsInNumber (withoutEndDots ".ab..").toList = false ∧
      ((ofLists reader [".A%42.."] []).allows reader ".ab.." = true ↔
        endDots ".ab.." ≤ endDots ".A%42..") ∧
      ((ofLists reader [] [".A%42.."]).allows reader ".ab.." = false ↔
        endDots ".ab.." ≤ endDots ".A%42..") := by
  have hread : Host.parse ".A%42.." = .ok (.name ".ab..") :=
    toOption_eq_some_iff.mp (by decide +kernel)
  have hdots : ¬Dots ".ab.." := by simp [Dots]
  have hnumber : Url.Ipv4.endsInNumber (withoutEndDots ".ab..").toList = false := by
    decide +kernel
  have hselect := selects_spelled_host hread hdots (.inr hnumber)
  rw [Url.Host.text] at hselect
  exact ⟨hread, hdots, hnumber, hselect⟩

/-- A dot that an escape writes is not stripped from the text, but from its host it is. -/
theorem escaped_dot_selects_nothing :
    Host.parse "example.com%2E" = .ok (.name "example.com.") ∧ ¬Dots "example.com." ∧
      (ofLists reader ["example.com%2E"] []).allows reader "example.com." = false ∧
      (ofLists reader [] ["example.com%2E"]).allows reader "example.com." = true := by
  refine ⟨toOption_eq_some_iff.mp ?_, by simp [Dots], ?_, ?_⟩ <;> decide +kernel

end SessionReplay.DomainFilter
