import Mathlib.Data.List.Infix
import SessionReplay.Proofs.Conversion.Outcome
import SessionReplay.Proofs.DomainFilter.Labels

/-!
# What a filter selects

* `DomainFilter.mem_normalDomains`: the domains of a list are the normal forms of its texts that are
  not empty;
* `DomainFilter.allows_eq`: the answer of a filter, by its two lists;
* `DomainFilter.Selected` — what two lists select, by whole labels;
* **`selected_by_labels`**: a filter keeps what its lists select, and no entry otherwise.
-/

namespace SessionReplay.DomainFilter

open Capture (Entry)

variable {read : HostReader} {only skip domains domains' : List String} {host n : String}

/-! ## The domains of a list -/

theorem mem_normalDomains :
    n ∈ normalDomains read domains ↔ n ≠ "" ∧ ∃ d ∈ domains, normalDomain read d = n := by
  rw [normalDomains, List.mem_filter, List.mem_map, Bool.not_eq_true', and_comm]
  simp only [← Bool.not_eq_true, String.isEmpty_iff, ne_eq]

theorem normalDomains_eq_nil_iff :
    normalDomains read domains = [] ↔ ∀ d ∈ domains, normalDomain read d = "" := by
  simp only [List.eq_nil_iff_forall_not_mem, mem_normalDomains, not_and, not_exists]
  constructor
  · intro h d hd
    by_contra hne
    exact h _ hne d hd rfl
  · intro h n hne d hd hn
    exact hne (hn ▸ h d hd)

theorem normalDomains_append (domains domains' : List String) :
    normalDomains read (domains ++ domains') =
      normalDomains read domains ++ normalDomains read domains' := by
  rw [normalDomains, List.map_append, List.filter_append]
  rfl

/-- A host lies in one of the domains of a list. -/
def inSome (read : HostReader) (domains : List String) (host : String) : Bool :=
  (normalDomains read domains).any (hostMatches (normalHost read host))

theorem inSome_iff : inSome read domains host = true ↔ ∃ d ∈ domains,
    normalDomain read d ≠ "" ∧ hostMatches (normalHost read host) (normalDomain read d) = true := by
  simp only [inSome, List.any_eq_true, mem_normalDomains]
  constructor
  · rintro ⟨_, ⟨hne, d, hd, rfl⟩, hmatch⟩
    exact ⟨d, hd, hne, hmatch⟩
  · rintro ⟨d, hd, hne, hmatch⟩
    exact ⟨_, ⟨hne, d, hd, rfl⟩, hmatch⟩

/-- **The answer of a filter**: the host lies in the domains of one list, unless there are none, and
not in those of the other. -/
theorem allows_eq (read : HostReader) (only skip : List String) (host : String) :
    (ofLists read only skip).allows read host =
      (((normalDomains read only).isEmpty || inSome read only host) && !inSome read skip host) :=
  rfl

/-! ## Selection by labels -/

/-- What two lists select: the hosts whose labels end in those of a domain of the one list, all if
it has no domain, and in those of no domain of the other. Texts without a normal form are no
domains. -/
def Selected (read : HostReader) (only skip : List String) (host : String) : Prop :=
  ((∀ d ∈ only, normalDomain read d = "") ∨ ∃ d ∈ only, normalDomain read d ≠ "" ∧
    labels (normalDomain read d) <:+ labels (normalHost read host)) ∧
  ∀ d ∈ skip, normalDomain read d ≠ "" →
    ¬labels (normalDomain read d) <:+ labels (normalHost read host)

instance (read : HostReader) (only skip : List String) (host : String) :
    Decidable (Selected read only skip host) :=
  inferInstanceAs (Decidable (_ ∧ _))

theorem allows_iff_selected :
    (ofLists read only skip).allows read host = true ↔ Selected read only skip host := by
  rw [allows_eq, Bool.and_eq_true, Bool.or_eq_true, List.isEmpty_iff, normalDomains_eq_nil_iff,
    Bool.not_eq_true', ← Bool.not_eq_true, inSome_iff, inSome_iff]
  simp only [hostMatches_iff_labels, Selected, not_exists, not_and]

theorem allows_eq_decide (read : HostReader) (only skip : List String) :
    (ofLists read only skip).allows read = fun host => decide (Selected read only skip host) := by
  funext host
  rw [Bool.eq_iff_iff, allows_iff_selected, decide_eq_true_iff]

/-- **A filter selects by whole labels.** It keeps a host if the labels of a domain of the one list
are the last labels of the host, or if that list has no domain, and if the labels of no domain of the
other list are. Of a session exactly the entries with such hosts are kept, each once and in their
order, provided that every entry has a host. -/
theorem selected_by_labels (read : HostReader) :
    (∀ (only skip : List String) (host : String), (ofLists read only skip).allows read host = true ↔
      ((∀ d ∈ only, normalDomain read d = "") ∨ ∃ d ∈ only, normalDomain read d ≠ "" ∧
        labels (normalDomain read d) <:+ labels (normalHost read host)) ∧
      ∀ d ∈ skip, normalDomain read d ≠ "" →
        ¬labels (normalDomain read d) <:+ labels (normalHost read host)) ∧
    ∀ (settings : Settings) (entries kept : List Entry),
      Conversion.kept read settings entries = .ok kept ↔
        (∀ e ∈ entries, e.host? ≠ none) ∧
        kept = entries.filter fun e =>
          e.host?.any fun host => decide (Selected read settings.only settings.skip host) := by
  refine ⟨fun only skip host => allows_iff_selected, fun settings entries kept => ?_⟩
  rw [Conversion.kept_eq_ok_iff, allows_eq_decide, eq_comm (a := kept)]
  rfl

end SessionReplay.DomainFilter
