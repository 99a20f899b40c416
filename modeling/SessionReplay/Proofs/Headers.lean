import Mathlib.Data.List.Nodup
import Mathlib.Tactic.SplitIfs
import SessionReplay.Headers

/-!
# Which headers are replayed

A header is sent again if its name may be, and if it is the first one of that name.

* `Replayable`, `IsFirst` — the two conditions, as a rule about places;
* `Admissible` — the first condition, for any list of names that are seen before;
* **`fresh_eq_filter`**: the headers that are kept are those at the places the rule admits;
* `key_notMem_of_mem_fresh`, `nodup_map_key_fresh`: no two of them have one name, nor one that is
  seen before;
* **`filter_key_fresh`**: under each name that is admitted, the first header of that name is kept;
* `fresh_fresh`: choosing again changes nothing.
-/

namespace SessionReplay.Headers

open Capture (NamedValue)

variable {seen : List String} {headers : List NamedValue} {header : NamedValue} {name : String}
  {withCookies : Bool}

/-! ## The rule -/

/-- A header that may be sent again: it has a name, which is none of the protocol's own; the length
of the body is not sent, nor are cookies that are sent on their own. -/
structure Replayable (withCookies : Bool) (header : NamedValue) : Prop where
  ne_empty : key header ≠ ""
  no_colon : ¬(key header).startsWith ":"
  ne_length : key header ≠ "content-length"
  ne_cookie : withCookies → key header ≠ "cookie"

/-- No header before this place has the same name. -/
def IsFirst (headers : List NamedValue) (place : Nat) (header : NamedValue) : Prop :=
  ∀ earlier ∈ headers.take place, key earlier ≠ key header

instance (headers : List NamedValue) (place : Nat) (header : NamedValue) :
    Decidable (IsFirst headers place header) :=
  inferInstanceAs (Decidable (∀ earlier ∈ headers.take place, key earlier ≠ key header))

/-- A name that may be sent when some were seen before. -/
structure Admissible (seen : List String) (name : String) : Prop where
  ne_empty : name ≠ ""
  no_colon : ¬name.startsWith ":"
  notMem : name ∉ seen

theorem admissible_iff :
    Admissible seen name ↔ ¬(name.isEmpty ∨ name.startsWith ":" ∨ seen.contains name) := by
  rw [String.isEmpty_iff, List.contains_iff_mem, not_or, not_or]
  constructor
  · rintro ⟨hempty, hcolon, hseen⟩
    exact ⟨hempty, hcolon, hseen⟩
  · rintro ⟨hempty, hcolon, hseen⟩
    exact ⟨hempty, hcolon, hseen⟩

instance (seen : List String) (name : String) : Decidable (Admissible seen name) :=
  decidable_of_iff _ admissible_iff.symm

/-- A header may be sent again if its name was not reserved. -/
theorem replayable_iff :
    Replayable withCookies header ↔ Admissible (reserved withCookies) (key header) := by
  have hreserved : key header ∉ reserved withCookies ↔
      key header ≠ "content-length" ∧ (withCookies → key header ≠ "cookie") := by
    cases withCookies <;> simp [reserved]
  constructor
  · rintro ⟨hempty, hcolon, hlength, hcookie⟩
    exact ⟨hempty, hcolon, hreserved.mpr ⟨hlength, hcookie⟩⟩
  · rintro ⟨hempty, hcolon, hseen⟩
    obtain ⟨hlength, hcookie⟩ := hreserved.mp hseen
    exact ⟨hempty, hcolon, hlength, hcookie⟩

instance (withCookies : Bool) (header : NamedValue) : Decidable (Replayable withCookies header) :=
  decidable_of_iff _ replayable_iff.symm

theorem admissible_cons_iff {other : String} :
    Admissible (other :: seen) name ↔ Admissible seen name ∧ other ≠ name := by
  constructor
  · rintro ⟨hempty, hcolon, hseen⟩
    rw [List.mem_cons, not_or] at hseen
    exact ⟨⟨hempty, hcolon, hseen.2⟩, Ne.symm hseen.1⟩
  · rintro ⟨⟨hempty, hcolon, hseen⟩, hne⟩
    exact ⟨hempty, hcolon, List.not_mem_cons_of_ne_of_not_mem hne.symm hseen⟩

/-! ## One header -/

theorem fresh_cons_of_admissible (h : Admissible seen (key header)) :
    fresh seen (header :: headers) = header :: fresh (key header :: seen) headers := by
  rw [fresh]
  exact if_neg (admissible_iff.mp h)

theorem fresh_cons_of_not_admissible (h : ¬Admissible seen (key header)) :
    fresh seen (header :: headers) = fresh seen headers := by
  rw [fresh]
  exact if_pos (not_not.mp fun hskip => h (admissible_iff.mpr hskip))

/-! ## All headers -/

/-- **The headers that are kept** are those at the places that the rule admits, in their order. -/
theorem fresh_eq_filter (seen : List String) (headers : List NamedValue) :
    fresh seen headers = (headers.zipIdx.filter fun place =>
      Admissible seen (key place.1) ∧ IsFirst headers place.2 place.1).map Prod.fst := by
  induction headers generalizing seen with
  | nil => rfl
  | cons first headers ih =>
    have hfirst : IsFirst (first :: headers) 0 first := nofun
    -- Behind the first header, places count one more, and one more header stands before them.
    have hlater (place : NamedValue × Nat) : IsFirst (first :: headers) (place.2 + 1) place.1 ↔
        key first ≠ key place.1 ∧ IsFirst headers place.2 place.1 := by
      simp only [IsFirst, List.take_succ_cons, List.forall_mem_cons]
    rw [List.zipIdx_cons', List.filter_cons, List.filter_map]
    by_cases hadmissible : Admissible seen (key first)
    · rw [fresh_cons_of_admissible hadmissible, ih, if_pos (by simpa using ⟨hadmissible, hfirst⟩),
        List.map_cons, List.map_map]
      congr 2
      refine List.filter_congr fun place _ => decide_eq_decide.mpr ?_
      rw [admissible_cons_iff, and_assoc, ← hlater]
      rfl
    · rw [fresh_cons_of_not_admissible hadmissible, ih,
        if_neg (by simpa using fun h => absurd h hadmissible), List.map_map]
      congr 1
      refine List.filter_congr fun place _ => decide_eq_decide.mpr ?_
      -- A name that is admitted is not the one that was left out.
      refine and_congr_right fun hname => ((hlater place).trans (and_iff_right ?_)).symm
      rintro hsame
      rw [hsame] at hadmissible
      exact hadmissible hname

theorem admissible_of_mem_fresh (h : header ∈ fresh seen headers) :
    Admissible seen (key header) := by
  rw [fresh_eq_filter] at h
  obtain ⟨place, hplace, rfl⟩ := List.mem_map.mp h
  exact (of_decide_eq_true (List.mem_filter.mp hplace).2).1

/-- No header that is kept has a name that is seen before it. -/
theorem key_notMem_of_mem_fresh (h : header ∈ fresh seen headers) : key header ∉ seen :=
  (admissible_of_mem_fresh h).notMem

/-- No two headers that are kept have one name. -/
theorem nodup_map_key_fresh (seen : List String) (headers : List NamedValue) :
    ((fresh seen headers).map key).Nodup := by
  induction headers generalizing seen with
  | nil => exact List.nodup_nil
  | cons first headers ih =>
    by_cases hadmissible : Admissible seen (key first)
    · rw [fresh_cons_of_admissible hadmissible, List.map_cons, List.nodup_cons, List.mem_map]
      refine ⟨?_, ih _⟩
      rintro ⟨header, hheader, hkey⟩
      exact key_notMem_of_mem_fresh hheader (hkey ▸ List.mem_cons_self)
    · rw [fresh_cons_of_not_admissible hadmissible]
      exact ih seen

/-- **Under each name that is admitted**, the first header of that name is kept, and no other. -/
theorem filter_key_fresh (hname : Admissible seen name) :
    (fresh seen headers).filter (key · = name) = (headers.find? (key · = name)).toList := by
  induction headers generalizing seen with
  | nil => rfl
  | cons first headers ih =>
    by_cases hkey : key first = name
    · have hadmissible : Admissible seen (key first) := by rwa [hkey]
      have hnone : (fresh (key first :: seen) headers).filter (key · = name) = [] := by
        rw [List.filter_eq_nil_iff]
        intro header hheader hsame
        rw [decide_eq_true_iff, ← hkey] at hsame
        exact key_notMem_of_mem_fresh hheader (hsame ▸ List.mem_cons_self)
      rw [fresh_cons_of_admissible hadmissible, List.filter_cons_of_pos (by simpa using hkey),
        List.find?_cons_of_pos (by simpa using hkey), hnone]
      rfl
    · rw [List.find?_cons_of_neg (by simpa using hkey)]
      by_cases hadmissible : Admissible seen (key first)
      · rw [fresh_cons_of_admissible hadmissible, List.filter_cons_of_neg (by simpa using hkey)]
        exact ih (admissible_cons_iff.mpr ⟨hname, hkey⟩)
      · rw [fresh_cons_of_not_admissible hadmissible]
        exact ih hname

theorem fresh_of_nodup (hall : ∀ header ∈ headers, Admissible seen (key header))
    (hnodup : (headers.map key).Nodup) : fresh seen headers = headers := by
  induction headers generalizing seen with
  | nil => rfl
  | cons first headers ih =>
    rw [List.forall_mem_cons] at hall
    rw [List.map_cons, List.nodup_cons] at hnodup
    rw [fresh_cons_of_admissible hall.1, ih (fun header hheader => ?_) hnodup.2]
    refine admissible_cons_iff.mpr ⟨hall.2 header hheader, fun hsame => hnodup.1 ?_⟩
    rw [hsame]
    exact List.mem_map_of_mem hheader

/-- Choosing again changes nothing. -/
theorem fresh_fresh (seen : List String) (headers : List NamedValue) :
    fresh seen (fresh seen headers) = fresh seen headers :=
  fresh_of_nodup (fun _ => admissible_of_mem_fresh) (nodup_map_key_fresh seen headers)

/-! ## Headers that are sent again -/

/-- The headers that are sent again are those at the places that the rule admits. -/
theorem replayed_eq_filter (headers : List NamedValue) (withCookies : Bool) :
    replayed headers withCookies = (headers.zipIdx.filter fun place =>
      Replayable withCookies place.1 ∧ IsFirst headers place.2 place.1).map Prod.fst := by
  simp only [replayed, fresh_eq_filter, replayable_iff]

/-- Under each name that may be sent, the first captured header is sent. -/
theorem exists_first_mem_replayed (hheader : header ∈ headers)
    (h : Replayable withCookies header) :
    ∃ first ∈ replayed headers withCookies,
      headers.find? (key · = key header) = some first := by
  have hfilter : (replayed headers withCookies).filter (key · = key header) =
      (headers.find? (key · = key header)).toList := filter_key_fresh (replayable_iff.mp h)
  cases hfind : headers.find? (key · = key header) with
  | none => exact absurd (decide_eq_true rfl) (List.find?_eq_none.mp hfind header hheader)
  | some first =>
    refine ⟨first, ?_, rfl⟩
    rw [hfind, Option.toList_some] at hfilter
    exact List.mem_of_mem_filter (hfilter ▸ List.mem_singleton_self first)

/-- A header that carries cookies is sent again if they are not sent on their own. -/
theorem filter_cookie_replayed (headers : List NamedValue) (withCookies : Bool) :
    (replayed headers withCookies).filter (key · = "cookie") =
      if withCookies then [] else (headers.find? (key · = "cookie")).toList := by
  cases withCookies with
  | false => exact filter_key_fresh (by decide +kernel)
  | true =>
    rw [if_pos rfl, List.filter_eq_nil_iff]
    intro header hheader hcookie
    rw [decide_eq_true_iff] at hcookie
    have hseen := key_notMem_of_mem_fresh hheader
    rw [hcookie] at hseen
    exact hseen (by decide)

end SessionReplay.Headers
