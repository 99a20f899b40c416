import SessionReplay.Proofs.DomainFilter.Selection
import SessionReplay.Proofs.Text.Blank

/-!
# Lists of domains as sets

* `DomainFilter.Blanks`, `DomainFilter.Dots`, `DomainFilter.IsVoid` — texts of white space and dots;
* `normalDomain_dressed`, `normalHost_append_dots`: dots and white space around a text do not count;
* `allows_congr`: the answer of a filter depends on the sets of its domains;
* `allows_append_skip`, `allows_append_only`: the filter of joined lists;
* `allows_cons_only`, `allows_cons_skip`: a domain within another one adds nothing;
* **`lists_are_sets`**: all of these laws, and the order of domains.
-/

namespace SessionReplay.DomainFilter

open Text (dropEndWhile_append isBlank trim trim_of_ends)

variable {read : HostReader} {only only' skip skip' domains domains' : List String}
  {s before lead d dots after e host n : String}

/-! ## White space and dots -/

/-- A text of white space only. -/
def Blanks (s : String) : Prop := ∀ c ∈ s.toList, isBlank c = true

/-- A text of dots only. -/
def Dots (s : String) : Prop := ∀ c ∈ s.toList, c = '.'

/-- A text that is blank, or one dot with white space around it. -/
def IsVoid (s : String) : Prop :=
  Blanks s ∨ ∃ before after, Blanks before ∧ Blanks after ∧ s = before ++ "." ++ after

/-- A text with no white space at its ends and no dot in front. -/
def IsBare (s : String) : Prop :=
  (∀ c ∈ s.toList.head?, isBlank c = false ∧ c ≠ '.') ∧
    ∀ c ∈ s.toList.getLast?, isBlank c = false

theorem mem_head?_append {c : Char} {cs ds : List Char} (h : c ∈ (cs ++ ds).head?) :
    c ∈ cs.head? ∨ c ∈ ds.head? := by
  cases cs with
  | nil => exact .inr h
  | cons d cs => exact .inl h

theorem mem_getLast?_append {c : Char} {cs ds : List Char} (h : c ∈ (cs ++ ds).getLast?) :
    c ∈ cs.getLast? ∨ c ∈ ds.getLast? := by
  rw [← List.head?_reverse, List.reverse_append] at h
  rw [← List.head?_reverse, ← List.head?_reverse]
  exact (mem_head?_append h).symm

/-- White space around a text is trimmed. -/
theorem trim_append (hbefore : Blanks before) (hafter : Blanks after) :
    trim (before ++ s ++ after) = trim s := by
  rw [trim, trim, Text.trimChars, Text.trimChars, String.toList_append, String.toList_append,
    List.append_assoc, List.dropWhile_append_of_pos hbefore, List.dropWhile_append]
  split_ifs with hs
  · rw [List.isEmpty_iff.mp hs, List.dropWhile_eq_nil_iff.mpr hafter]
  · rw [dropEndWhile_append hafter]

theorem withoutEndDots_append (h : Dots dots) :
    withoutEndDots (s ++ dots) = withoutEndDots s := by
  rw [withoutEndDots, withoutEndDots, String.toList_append,
    dropEndWhile_append fun c hc => by rw [h c hc]; rfl]

theorem withoutFirstDot_of_head? (h : ∀ c ∈ s.toList.head?, c ≠ '.') : withoutFirstDot s = s := by
  unfold withoutFirstDot
  split
  · next cs heq => exact absurd rfl (h '.' (by rw [heq]; rfl))
  · rfl

theorem withoutFirstDot_dot (s : String) : withoutFirstDot ("." ++ s) = s := by
  simp [withoutFirstDot]

theorem withoutEndDots_of_dots (h : Dots dots) : withoutEndDots dots = "" := by
  have hempty : withoutEndDots ("" ++ dots) = withoutEndDots "" := withoutEndDots_append h
  rwa [String.empty_append] at hempty

theorem withoutEndDots_withoutFirstDot (h : Dots dots) :
    withoutEndDots (withoutFirstDot dots) = "" := by
  apply withoutEndDots_of_dots
  unfold withoutFirstDot
  split
  · next cs heq =>
    intro c hc
    rw [String.toList_ofList] at hc
    exact h c (by rw [heq]; exact List.mem_cons_of_mem _ hc)
  · exact h

/-! ## Normal forms -/

theorem normalDomain_of_void (h : IsVoid s) : normalDomain read s = "" := by
  have htrim : trim s = "" ∨ trim s = "." := by
    rcases h with h | ⟨before, after, hbefore, hafter, rfl⟩
    · have hnone : Blanks "" := by simp [Blanks]
      have hempty : trim (s ++ "" ++ "") = trim "" := trim_append h hnone
      rw [String.append_empty, String.append_empty] at hempty
      exact .inl hempty
    · exact .inr (trim_append hbefore hafter)
  rcases htrim with htrim | htrim <;> rw [normalDomain, htrim] <;> rfl

/-- **Dots and white space around a domain do not count**: at most one dot in front of it and any
number behind it, and white space around all that. -/
theorem normalDomain_dressed (hd : IsBare d) (hbefore : Blanks before) (hafter : Blanks after)
    (hlead : lead = "" ∨ lead = ".") (hdots : Dots dots) :
    normalDomain read (before ++ (lead ++ d ++ dots) ++ after) = normalDomain read d := by
  have hplain : normalDomain read d = hostText read (withoutEndDots d) := by
    rw [normalDomain, trim_of_ends (fun c hc => (hd.1 c hc).1) hd.2,
      withoutFirstDot_of_head? fun c hc => (hd.1 c hc).2]
  have hleading : Dots lead := by rcases hlead with rfl | rfl <;> simp [Dots]
  have hdot {c : Char} (hc : c = '.') : isBlank c = false := by rw [hc]; rfl
  have htrim : trim (lead ++ d ++ dots) = lead ++ d ++ dots := by
    apply trim_of_ends
    · intro c hc
      rw [String.toList_append, String.toList_append] at hc
      rcases mem_head?_append hc with hc | hc
      · rcases mem_head?_append hc with hc | hc
        · exact hdot (hleading c (List.mem_of_mem_head? hc))
        · exact (hd.1 c hc).1
      · exact hdot (hdots c (List.mem_of_mem_head? hc))
    · intro c hc
      rw [String.toList_append, String.toList_append] at hc
      rcases mem_getLast?_append hc with hc | hc
      · rcases mem_getLast?_append hc with hc | hc
        · exact hdot (hleading c (List.mem_of_mem_getLast? hc))
        · exact hd.2 c hc
      · exact hdot (hdots c (List.mem_of_mem_getLast? hc))
  have hfirst : withoutEndDots (withoutFirstDot (lead ++ d ++ dots)) = withoutEndDots d := by
    rcases hlead with rfl | rfl
    · rw [String.empty_append]
      by_cases hempty : d = ""
      · rw [hempty, String.empty_append, withoutEndDots_withoutFirstDot hdots]
        rfl
      · rw [withoutFirstDot_of_head?, withoutEndDots_append hdots]
        intro c hc
        rw [String.toList_append, List.head?_append_of_ne_nil _ (by simpa using hempty)] at hc
        exact (hd.1 c hc).2
    · rw [String.append_assoc, withoutFirstDot_dot, withoutEndDots_append hdots]
  rw [normalDomain, trim_append hbefore hafter, htrim, hplain, hfirst]

/-- **Dots behind a host do not count.** -/
theorem normalHost_append_dots (hdots : Dots dots) :
    normalHost read (host ++ dots) = normalHost read host := by
  rw [normalHost, normalHost, withoutEndDots_append hdots]

/-! ## Lists -/

theorem inSome_congr (h : ∀ n, n ∈ normalDomains read domains ↔ n ∈ normalDomains read domains')
    (host : String) : inSome read domains host = inSome read domains' host := by
  rw [Bool.eq_iff_iff, inSome, inSome, List.any_eq_true, List.any_eq_true]
  simp only [h]

theorem inSome_append (domains domains' : List String) (host : String) :
    inSome read (domains ++ domains') host =
      (inSome read domains host || inSome read domains' host) := by
  rw [inSome, normalDomains_append, List.any_append]
  rfl

theorem isEmpty_normalDomains (hd : d ∈ domains) (hne : normalDomain read d ≠ "") :
    (normalDomains read domains).isEmpty = false := by
  rw [← Bool.not_eq_true, List.isEmpty_iff, normalDomains_eq_nil_iff]
  exact fun h => hne (h d hd)

/-- **The answer of a filter depends on the sets of its domains.** -/
theorem allows_congr (honly : ∀ n, n ∈ normalDomains read only ↔ n ∈ normalDomains read only')
    (hskip : ∀ n, n ∈ normalDomains read skip ↔ n ∈ normalDomains read skip') (host : String) :
    (ofLists read only skip).allows read host = (ofLists read only' skip').allows read host := by
  have hempty : (normalDomains read only).isEmpty = (normalDomains read only').isEmpty := by
    rw [Bool.eq_iff_iff, List.isEmpty_iff, List.isEmpty_iff, List.eq_nil_iff_forall_not_mem,
      List.eq_nil_iff_forall_not_mem]
    simp only [honly]
  rw [allows_eq, allows_eq, hempty, inSome_congr honly, inSome_congr hskip]

theorem mem_normalDomains_congr
    (h : ∀ d, ¬IsVoid d → (d ∈ domains ↔ d ∈ domains')) (n : String) :
    n ∈ normalDomains read domains ↔ n ∈ normalDomains read domains' := by
  rw [mem_normalDomains, mem_normalDomains]
  refine and_congr_right fun hne => exists_congr fun d => ?_
  rw [and_congr_left_iff]
  rintro rfl
  exact h d fun hvoid => hne (normalDomain_of_void hvoid)

theorem allows_append_skip (only skip skip' : List String) (host : String) :
    (ofLists read only (skip ++ skip')).allows read host =
      ((ofLists read only skip).allows read host &&
        (ofLists read only skip').allows read host) := by
  rw [allows_eq, allows_eq, allows_eq, inSome_append, Bool.not_or]
  cases (normalDomains read only).isEmpty || inSome read only host <;> simp

theorem allows_append_only (hd : d ∈ only) (hdne : normalDomain read d ≠ "") (he : e ∈ only')
    (hene : normalDomain read e ≠ "") (skip : List String) (host : String) :
    (ofLists read (only ++ only') skip).allows read host =
      ((ofLists read only skip).allows read host ||
        (ofLists read only' skip).allows read host) := by
  rw [allows_eq, allows_eq, allows_eq, inSome_append, isEmpty_normalDomains hd hdne,
    isEmpty_normalDomains he hene, isEmpty_normalDomains (List.mem_append_left _ hd) hdne]
  cases inSome read skip host <;> simp

/-- A domain within another one of its list holds no more hosts. -/
theorem inSome_cons (hd : d ∈ domains) (hne : normalDomain read d ≠ "")
    (hwithin : hostMatches (normalDomain read e) (normalDomain read d) = true) (host : String) :
    inSome read (e :: domains) host = inSome read domains host := by
  rw [Bool.eq_iff_iff, inSome_iff, inSome_iff]
  constructor
  · rintro ⟨f, hf, hfne, hmatch⟩
    rcases List.mem_cons.mp hf with rfl | hf
    · exact ⟨d, hd, hne, hostMatches_trans hmatch hwithin⟩
    · exact ⟨f, hf, hfne, hmatch⟩
  · rintro ⟨f, hf, hmatch⟩
    exact ⟨f, List.mem_cons_of_mem e hf, hmatch⟩

theorem allows_cons_only (hd : d ∈ only) (hne : normalDomain read d ≠ "")
    (hwithin : hostMatches (normalDomain read e) (normalDomain read d) = true)
    (skip : List String) (host : String) :
    (ofLists read (e :: only) skip).allows read host =
      (ofLists read only skip).allows read host := by
  rw [allows_eq, allows_eq, inSome_cons hd hne hwithin, isEmpty_normalDomains hd hne,
    isEmpty_normalDomains (List.mem_cons_of_mem e hd) hne]

theorem allows_cons_skip (hd : d ∈ skip) (hne : normalDomain read d ≠ "")
    (hwithin : hostMatches (normalDomain read e) (normalDomain read d) = true)
    (only : List String) (host : String) :
    (ofLists read only (e :: skip)).allows read host =
      (ofLists read only skip).allows read host := by
  rw [allows_eq, allows_eq, inSome_cons hd hne hwithin]

/-- A text in a list may be written in another way with the same normal form. -/
theorem normalDomains_rewritten (h : normalDomain read e = normalDomain read d)
    (front behind : List String) :
    normalDomains read (front ++ e :: behind) = normalDomains read (front ++ d :: behind) := by
  rw [normalDomains, normalDomains, List.map_append, List.map_append, List.map_cons, List.map_cons,
    h]

/-- **Lists of domains are sets of domains.** A filter does not depend on order and repetition in
its lists, nor on void texts in them. A host passes joined lists of domains to drop if it passes
each; it passes joined lists of domains to keep if it passes one of them, provided that both have a
domain. A domain within another one of its list adds nothing to it. Neither dots behind a host count
nor, around a text of a list, a dot in front, dots behind and white space. To lie in a domain is a
partial order. -/
theorem lists_are_sets (read : HostReader) :
    (∀ only only' skip skip' : List String, (∀ d, ¬IsVoid d → (d ∈ only ↔ d ∈ only')) →
      (∀ d, ¬IsVoid d → (d ∈ skip ↔ d ∈ skip')) → ∀ host,
        (ofLists read only skip).allows read host = (ofLists read only' skip').allows read host) ∧
    (∀ (only skip skip' : List String) (host : String),
      (ofLists read only (skip ++ skip')).allows read host =
        ((ofLists read only skip).allows read host &&
          (ofLists read only skip').allows read host)) ∧
    (∀ only only' skip : List String, (∃ d ∈ only, normalDomain read d ≠ "") →
      (∃ d ∈ only', normalDomain read d ≠ "") → ∀ host,
        (ofLists read (only ++ only') skip).allows read host =
          ((ofLists read only skip).allows read host ||
            (ofLists read only' skip).allows read host)) ∧
    (∀ d e : String, normalDomain read d ≠ "" →
      hostMatches (normalDomain read e) (normalDomain read d) = true →
        ∀ (listed other : List String) (host : String), d ∈ listed →
          (ofLists read (e :: listed) other).allows read host =
            (ofLists read listed other).allows read host ∧
          (ofLists read other (e :: listed)).allows read host =
            (ofLists read other listed).allows read host) ∧
    (∀ (only skip : List String) (host dots : String), Dots dots →
      (ofLists read only skip).allows read (host ++ dots) =
        (ofLists read only skip).allows read host) ∧
    (∀ before lead d dots after : String, IsBare d → Blanks before → Blanks after →
      (lead = "" ∨ lead = ".") → Dots dots →
        ∀ (front behind other : List String) (host : String),
          (ofLists read (front ++ (before ++ (lead ++ d ++ dots) ++ after) :: behind) other).allows
              read host =
            (ofLists read (front ++ d :: behind) other).allows read host ∧
          (ofLists read other (front ++ (before ++ (lead ++ d ++ dots) ++ after) :: behind)).allows
              read host =
            (ofLists read other (front ++ d :: behind)).allows read host) ∧
    (∀ a, hostMatches a a = true) ∧
    (∀ a b c, hostMatches a b = true → hostMatches b c = true → hostMatches a c = true) ∧
    (∀ a b, hostMatches a b = true → hostMatches b a = true → a = b) := by
  refine ⟨fun only only' skip skip' honly hskip host => ?_, fun only skip skip' host => ?_,
    fun only only' skip honly honly' host => ?_, fun d e hne hwithin listed other host hd => ⟨?_, ?_⟩,
    fun only skip host dots hdots => ?_,
    fun before lead d dots after hd hbefore hafter hlead hdots front behind other host => ?_,
    hostMatches_refl, fun a b c => hostMatches_trans, fun a b => hostMatches_antisymm⟩
  · exact allows_congr (mem_normalDomains_congr honly) (mem_normalDomains_congr hskip) host
  · exact allows_append_skip only skip skip' host
  · obtain ⟨d, hd, hdne⟩ := honly
    obtain ⟨e, he, hene⟩ := honly'
    exact allows_append_only hd hdne he hene skip host
  · exact allows_cons_only hd hne hwithin other host
  · exact allows_cons_skip hd hne hwithin other host
  · rw [allows, allows, normalHost_append_dots hdots]
  · have hsame : normalDomain read (before ++ (lead ++ d ++ dots) ++ after) = normalDomain read d :=
      normalDomain_dressed hd hbefore hafter hlead hdots
    rw [ofLists, ofLists, ofLists, ofLists, normalDomains_rewritten hsame]
    exact ⟨rfl, rfl⟩

/-- Two lists with a domain each, a domain within another one, and a domain in dots and blanks. -/
theorem lists_are_sets_letters :
    ((∃ d ∈ ["", "a"], normalDomain (fun _ => none) d ≠ "") ∧
      (∃ d ∈ [".B."], normalDomain (fun _ => none) d ≠ "") ∧
      (ofLists (fun _ => none) ["", "a", ".B."] []).allows (fun _ => none) "x.b" =
        ((ofLists (fun _ => none) ["", "a"] []).allows (fun _ => none) "x.b" ||
          (ofLists (fun _ => none) [".B."] []).allows (fun _ => none) "x.b")) ∧
    (normalDomain (fun _ => none) "A" ≠ "" ∧
      hostMatches (normalDomain (fun _ => none) "x.a") (normalDomain (fun _ => none) "A") = true ∧
      (ofLists (fun _ => none) ["x.a", "A"] []).allows (fun _ => none) "y.a" =
        (ofLists (fun _ => none) ["A"] []).allows (fun _ => none) "y.a") ∧
    IsBare "a" ∧ Blanks " " ∧ Blanks "\u3000" ∧ Dots ".." ∧
      (ofLists (fun _ => none) [] [" .a..\u3000"]).allows (fun _ => none) "x.a" =
        (ofLists (fun _ => none) [] ["a"]).allows (fun _ => none) "x.a" := by
  have hempty : ∃ d ∈ ["", "a"], normalDomain (fun _ => none) d ≠ "" :=
    ⟨"a", by decide, by decide +kernel⟩
  have hb : ∃ d ∈ [".B."], normalDomain (fun _ => none) d ≠ "" :=
    ⟨".B.", by decide, by decide +kernel⟩
  have ha : normalDomain (fun _ => none) "A" ≠ "" := by decide +kernel
  have hwithin : hostMatches (normalDomain (fun _ => none) "x.a")
      (normalDomain (fun _ => none) "A") = true := by decide +kernel
  have hbare : IsBare "a" := by simp [IsBare, isBlank]
  have hspace : Blanks " " := by simp [Blanks, isBlank]
  have hwide : Blanks "\u3000" := by simp [Blanks, isBlank]
  have hdots : Dots ".." := by simp [Dots]
  obtain ⟨-, -, hjoin, hadd, -, hdressed, -⟩ := lists_are_sets fun _ => none
  exact ⟨⟨hempty, hb, hjoin ["", "a"] [".B."] [] hempty hb "x.b"⟩,
    ⟨ha, hwithin, (hadd "A" "x.a" ha hwithin ["A"] [] "y.a" (by decide)).1⟩,
    hbare, hspace, hwide, hdots,
    (hdressed " " "." "a" ".." "\u3000" hbare hspace hwide (.inr rfl) hdots [] [] [] "x.a").2⟩

end SessionReplay.DomainFilter
