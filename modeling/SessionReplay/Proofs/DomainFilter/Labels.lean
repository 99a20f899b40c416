import SessionReplay.DomainFilter

/-!
# Labels of hosts and domains

* `DomainFilter.labels` — the texts between the dots of a host or a domain;
* **`hostMatches_iff_labels`**: a host lies in a domain if the labels of the domain are the last
  ones of the host;
* `hostMatches_refl`, `hostMatches_trans`, `hostMatches_antisymm`: domains are ordered by this.
-/

namespace SessionReplay

namespace DomainFilter

/-- The labels of a host or a domain: what stands between its dots. -/
def labels (s : String) : List (List Char) :=
  s.toList.splitOn '.'

theorem intercalate_labels (s : String) : ['.'].intercalate (labels s) = s.toList :=
  List.intercalate_splitOn '.'

theorem labels_ne_nil (s : String) : labels s ≠ [] :=
  List.splitOn_ne_nil '.' s.toList

theorem labels_injective : Function.Injective labels := by
  intro s t h
  rw [← String.toList_inj, ← intercalate_labels s, ← intercalate_labels t, h]

theorem intercalate_append {front behind : List (List Char)} (hfront : front ≠ [])
    (hbehind : behind ≠ []) :
    ['.'].intercalate (front ++ behind) =
      ['.'].intercalate front ++ '.' :: ['.'].intercalate behind := by
  induction front with
  | nil => exact absurd rfl hfront
  | cons label front ih =>
    cases front with
    | nil =>
      rw [List.singleton_append, List.intercalate_cons_of_ne_nil hbehind,
        List.intercalate_singleton, List.append_assoc, List.singleton_append]
    | cons next front =>
      rw [List.cons_append, List.intercalate_cons_of_ne_nil (by simp), ih (by simp),
        List.intercalate_cons_cons]
      simp

end DomainFilter

open DomainFilter

variable {a b c host domain : String}

/-- **A host lies in a domain** if the labels of the domain are the last labels of the host. -/
theorem hostMatches_iff_labels : hostMatches host domain = true ↔ labels domain <:+ labels host := by
  rw [hostMatches, Bool.or_eq_true, beq_iff_eq, List.isSuffixOf_iff_suffix]
  constructor
  · rintro (rfl | ⟨front, hfront⟩)
    · exact List.suffix_rfl
    · exact ⟨front.splitOn '.', by
        rw [labels, labels, ← hfront, List.splitOn_append_cons_self]⟩
  · rintro ⟨front, hfront⟩
    by_cases hnil : front = []
    · rw [hnil, List.nil_append] at hfront
      exact .inl (labels_injective hfront).symm
    · refine .inr ⟨['.'].intercalate front, ?_⟩
      rw [← intercalate_labels domain, ← intercalate_labels host, ← hfront,
        intercalate_append hnil (labels_ne_nil domain)]

theorem hostMatches_refl (host : String) : hostMatches host host = true :=
  hostMatches_iff_labels.mpr List.suffix_rfl

theorem hostMatches_trans (hab : hostMatches a b = true) (hbc : hostMatches b c = true) :
    hostMatches a c = true := by
  rw [hostMatches_iff_labels] at hab hbc ⊢
  exact hbc.trans hab

theorem hostMatches_antisymm (hab : hostMatches a b = true) (hba : hostMatches b a = true) :
    a = b := by
  rw [hostMatches_iff_labels] at hab hba
  exact labels_injective (hba.eq_of_length (Nat.le_antisymm hba.length_le hab.length_le))

end SessionReplay
