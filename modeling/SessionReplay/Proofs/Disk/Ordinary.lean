import Mathlib.Data.List.Induction
import SessionReplay.Proofs.Disk.Tree

/-!
# Places made of ordinary names

* `Place.Ordinary` — a place without dots, and with no slash at its end;
* `Place.Rooted` — such a place, or one from which places are counted;
* `Place.Within` — a place is one ordinary name in its folder;
* `Place.Spelled` — how an ordinary place is written, with more slashes than it needs or not;
* **`Ordinary.exists_within`**: every ordinary place is one name in its folder, which is a place of
  the same kind.
-/

namespace SessionReplay.Disk.Place

open FileTree (steps)

variable {path folder last : String} {ns init front empties : List String}

/-- A place made of ordinary names: none of them is a dot or two dots, and there is no slash at the
end. Slashes next to each other count as one. -/
structure Ordinary (path : String) : Prop where
  ended : (names path).getLast? ≠ some ""
  dot : "." ∉ names path
  dots : ".." ∉ names path

instance : Decidable (Ordinary path) :=
  decidable_of_iff ((names path).getLast? ≠ some "" ∧ "." ∉ names path ∧ ".." ∉ names path)
    ⟨fun h => ⟨h.1, h.2.1, h.2.2⟩, fun h => ⟨h.ended, h.dot, h.dots⟩⟩

/-- An ordinary place, or one from which places are counted. -/
def Rooted (path : String) : Prop :=
  path = "" ∨ path = "/" ∨ Ordinary path

/-- A place is one ordinary name in its folder, and that is a place from which names can be
counted. -/
structure Within (folder last path : String) : Prop where
  parent : parent? path = some folder
  rooted : Rooted folder
  steps : steps path = steps folder ++ [last]
  isAbsolute : isAbsolute path = isAbsolute folder
  dot : last ≠ "."
  dots : last ≠ ".."
  ended : path.endsWith "/" = false
  length : folder.length < path.length

/-! ## How a place is written -/

theorem Ordinary.ne_empty (h : Ordinary path) : path ≠ "" := by
  rintro rfl
  exact h.ended rfl

/-- A place is absolute if its first name is empty. -/
theorem isAbsolute_iff_names (h : path ≠ "") :
    isAbsolute path = true ↔ (names path).head? = some "" := by
  rw [isAbsolute_iff, names]
  cases hpath : path.toList with
  | nil => exact absurd (String.toList_eq_nil_iff.mp hpath) h
  | cons c cs =>
    rw [List.splitOn_cons_eq_if_modifyHead]
    split_ifs with hc
    · rw [eq_of_beq hc]
      exact iff_of_true rfl rfl
    · refine iff_of_false (fun hhead => hc (beq_iff_eq.mpr (Option.some.inj hhead))) ?_
      cases hparts : cs.splitOn '/' with
      | nil => exact absurd hparts (List.splitOn_ne_nil '/' cs)
      | cons first others =>
        intro hempty
        exact List.cons_ne_nil c first (String.ofList_eq_empty_iff.mp (Option.some.inj hempty))

/-- What comes before the last name of a place. -/
theorem eq_append_of_names (h : names path = init ++ [last]) :
    path = (if init = [] then "" else "/".intercalate init ++ "/") ++ last := by
  rw [← intercalate_names path, h]
  split_ifs with hinit
  · rw [hinit, List.nil_append, String.intercalate_singleton, String.empty_append]
  · rw [String.intercalate_append_of_ne_nil hinit (List.cons_ne_nil _ _),
      String.intercalate_singleton]

/-- Names before empty ones. Without dots, the empty ones are those that say nothing. -/
theorem exists_front (h : "." ∉ ns) : ∃ front empties, ns = front ++ empties ∧
    (∀ name ∈ empties, name = "") ∧ front.getLast? ≠ some "" ∧
      significant ns.reverse = front.reverse := by
  induction ns using List.reverseRecOn with
  | nil => exact ⟨[], [], rfl, nofun, nofun, rfl⟩
  | append_singleton ns name ih =>
    rw [List.mem_append, not_or, List.mem_singleton] at h
    rw [List.reverse_append, List.reverse_singleton, List.singleton_append]
    by_cases hempty : name = ""
    · obtain ⟨front, empties, rfl, hempties, hlast, hfront⟩ := ih h.1
      refine ⟨front, empties ++ [name], List.append_assoc .., ?_, hlast, ?_⟩
      · exact List.forall_mem_append.mpr ⟨hempties, List.forall_mem_singleton.mpr hempty⟩
      · rw [significant, if_pos (.inl (String.isEmpty_iff.mpr hempty)), hfront]
    · refine ⟨ns ++ [name], [], (List.append_nil _).symm, nofun, ?_, ?_⟩
      · rw [List.getLast?_concat]
        exact fun hname => hempty (Option.some.inj hname)
      · rw [significant_cons hempty (Ne.symm h.2), List.reverse_append]
        rfl

/-- How an ordinary place is written: the names of its folder, empty names for more slashes, and the
name in the folder. -/
structure Spelled (front empties : List String) (last path : String) : Prop where
  names_eq : names path = front ++ empties ++ [last]
  eq_empty : ∀ name ∈ empties, name = ""
  front_end : front.getLast? ≠ some ""
  above_eq : significant (front ++ empties).reverse = front.reverse
  ne_empty : last ≠ ""
  dot : last ≠ "."
  dots : last ≠ ".."

theorem Ordinary.exists_spelled (h : Ordinary path) :
    ∃ front empties last, Spelled front empties last path := by
  cases hlast : (names path).getLast? with
  | none => exact absurd (List.getLast?_eq_none_iff.mp hlast) (Text.parts_ne_nil '/' path)
  | some last =>
    obtain ⟨init, hnames⟩ := List.getLast?_eq_some_iff.mp hlast
    have hmem : last ∈ names path := List.mem_of_getLast? hlast
    have hdot : "." ∉ init := fun hdot => h.dot (hnames ▸ List.mem_append_left _ hdot)
    obtain ⟨front, empties, rfl, hempties, hfront, habove⟩ := exists_front hdot
    refine ⟨front, empties, last, hnames, hempties, hfront, habove, ?_, ?_, ?_⟩
    · rintro rfl
      exact h.ended hlast
    · rintro rfl
      exact h.dot hmem
    · rintro rfl
      exact h.dots hmem

namespace Spelled

theorem endsWith (h : Spelled front empties last path) : path.endsWith "/" = false := by
  rw [eq_append_of_names h.names_eq]
  refine endsWith_slash_append (Text.notMem_of_mem_parts (show last ∈ names path from ?_))
    h.ne_empty
  exact h.names_eq ▸ List.mem_concat_self

theorem steps_eq (h : Spelled front empties last path) :
    steps path = front.filter (fun name => !name.isEmpty) ++ [last] := by
  have hempties : empties.filter (fun name => !name.isEmpty) = [] :=
    List.filter_eq_nil_iff.mpr fun name hname => by rw [h.eq_empty name hname]; decide
  have hlast : last.isEmpty = false := by
    rw [Bool.eq_false_iff, ne_eq, String.isEmpty_iff]
    exact h.ne_empty
  rw [steps, h.names_eq, List.filter_append, List.filter_append, hempties, List.append_nil,
    List.filter_cons, hlast]
  rfl

theorem parent?_eq (h : Spelled front empties last path) : parent? path =
    some (if front = [] then if isAbsolute path then "/" else "" else "/".intercalate front) := by
  rw [parent?, h.names_eq, List.reverse_append, List.reverse_singleton, List.singleton_append,
    significant_cons h.ne_empty h.dot]
  dsimp only
  rw [h.above_eq]
  by_cases hnil : front = []
  · rw [hnil]
    rfl
  · rw [if_neg hnil]
    cases hreverse : front.reverse with
    | nil => exact absurd (List.reverse_eq_nil_iff.mp hreverse) hnil
    | cons name above =>
      dsimp only
      rw [← hreverse, List.reverse_reverse]

theorem one_lt_length (h : Spelled front empties last path) (hpath : path ≠ "")
    (habsolute : isAbsolute path = true) : 1 < path.length := by
  have hinit : front ++ empties ≠ [] := by
    intro hnil
    have hhead := (isAbsolute_iff_names hpath).mp habsolute
    rw [h.names_eq, hnil] at hhead
    exact h.ne_empty (Option.some.inj hhead)
  have hlength : last.length ≠ 0 := fun hzero => h.ne_empty (String.length_eq_zero_iff.mp hzero)
  have hslash : "/".length = 1 := rfl
  rw [eq_append_of_names h.names_eq, if_neg hinit, String.length_append, String.length_append]
  omega

/-- The names of the folder, with slashes between them, are an ordinary place. -/
theorem ordinary_front (h : Spelled front empties last path) (hpath : Ordinary path)
    (hfront : front ≠ []) :
    names ("/".intercalate front) = front ∧ Ordinary ("/".intercalate front) := by
  have hsub : ∀ name ∈ front, name ∈ names path := fun name hname =>
    h.names_eq ▸ List.mem_append_left _ (List.mem_append_left _ hname)
  have hnames : names ("/".intercalate front) = front :=
    Text.parts_intercalate rfl hfront fun name hname => Text.notMem_of_mem_parts (hsub name hname)
  exact ⟨hnames, hnames.symm ▸ h.front_end, fun hdot => hpath.dot (hsub _ (hnames ▸ hdot)),
    fun hdots => hpath.dots (hsub _ (hnames ▸ hdots))⟩

theorem length_front_lt (h : Spelled front empties last path) (hfront : front ≠ []) :
    ("/".intercalate front).length < path.length := by
  have hlength := congrArg String.length (intercalate_names path)
  rw [h.names_eq, List.append_assoc, String.intercalate_append_of_ne_nil hfront
    (List.append_ne_nil_of_right_ne_nil _ (List.cons_ne_nil _ _)), String.length_append,
    String.length_append] at hlength
  have hslash : "/".length = 1 := rfl
  omega

theorem within (h : Spelled front empties last path) (hparent : parent? path = some folder)
    (hrooted : Rooted folder) (hsteps : steps folder = front.filter fun name => !name.isEmpty)
    (habsolute : isAbsolute path = isAbsolute folder) (hlength : folder.length < path.length) :
    Within folder last path :=
  ⟨hparent, hrooted, hsteps ▸ h.steps_eq, habsolute, h.dot, h.dots, h.endsWith, hlength⟩

end Spelled

/-- **An ordinary place is one name in its folder**, and the folder is an ordinary place too, or one
from which places are counted. -/
theorem Ordinary.exists_within (h : Ordinary path) : ∃ folder last, Within folder last path := by
  obtain ⟨front, empties, last, hspelled⟩ := h.exists_spelled
  have hparent := hspelled.parent?_eq
  cases front with
  | nil =>
    rw [if_pos rfl] at hparent
    cases habsolute : isAbsolute path with
    | false =>
      rw [habsolute] at hparent
      exact ⟨"", last, hspelled.within hparent (.inl rfl) rfl (habsolute.trans (by decide +kernel))
        (Nat.pos_of_ne_zero fun hzero => h.ne_empty (String.length_eq_zero_iff.mp hzero))⟩
    | true =>
      rw [habsolute] at hparent
      exact ⟨"/", last, hspelled.within hparent (.inr (.inl rfl)) rfl
        (habsolute.trans (by decide +kernel)) (hspelled.one_lt_length h.ne_empty habsolute)⟩
  | cons first others =>
    have hfront : first :: others ≠ [] := List.cons_ne_nil _ _
    obtain ⟨hnames, hordinary⟩ := hspelled.ordinary_front h hfront
    rw [if_neg hfront] at hparent
    refine ⟨_, last, hspelled.within hparent (.inr (.inr hordinary)) (by rw [steps, hnames]) ?_
      (hspelled.length_front_lt hfront)⟩
    rw [Bool.eq_iff_iff, isAbsolute_iff_names h.ne_empty, isAbsolute_iff_names hordinary.ne_empty,
      hnames, hspelled.names_eq]
    rfl

end SessionReplay.Disk.Place
