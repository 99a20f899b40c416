import Mathlib.Data.List.Forall2
import SessionReplay.Idna.Domain
import SessionReplay.Proofs.Idna.Punycode
import SessionReplay.Proofs.Unicode.Normal

/-!
# Basic forms of domain names

* `mapName?_append_cons`: a name is mapped part by part around a sign that joins nothing;
* `Rewrites` — what a label of a mapped name is rewritten to; a label that comes in Punycode stays as
  it is;
* `IsSmall`, `IsPermitted` — basic characters that are no capitals, and those that are not forbidden;
* **`toAscii?_append_dot`**: the parts of a name around a full stop have basic forms if the name has;
* **`toAscii?_of_small`**: the basic form of a basic name without capitals is the name;
* **`toAscii?_chars`**: a basic form holds neither capitals nor other forbidden characters.
-/

namespace SessionReplay.Idna

open Punycode (isBasic)
open Unicode (isLone normalize_append_cons normalize_of_basic)

variable {c d : Char} {cs ds xs ys name mapped ascii label read written : List Char}
  {labels labels' : List (List Char)}

/-! ## Lists of options -/

theorem mapM_eq_some_iff {α β : Type} {f : α → Option β} {xs : List α} {ys : List β} :
    xs.mapM f = some ys ↔ List.Forall₂ (fun x y => f x = some y) xs ys := by
  induction xs generalizing ys with
  | nil => rw [List.mapM_nil, List.forall₂_nil_left_iff, eq_comm, Option.pure_def, Option.some_inj]
  | cons x xs ih =>
    simp only [List.mapM_cons, Option.bind_eq_bind, Option.bind_eq_some_iff, Option.pure_def,
      Option.some.injEq, List.forall₂_cons_left_iff, ih]
    constructor
    · rintro ⟨y, hy, ys, hys, rfl⟩
      exact ⟨y, ys, hy, hys, rfl⟩
    · rintro ⟨y, ys, hy, hys, rfl⟩
      exact ⟨y, hy, ys, hys, rfl⟩

theorem mapM_append_eq_some_iff {α β : Type} {f : α → Option β} {xs ys : List α} {zs : List β} :
    (xs ++ ys).mapM f = some zs ↔ ∃ front behind, xs.mapM f = some front ∧
      ys.mapM f = some behind ∧ zs = front ++ behind := by
  simp only [List.mapM_append, Option.bind_eq_bind, Option.bind_eq_some_iff, Option.pure_def,
    Option.some.injEq]
  constructor
  · rintro ⟨front, hfront, behind, hbehind, rfl⟩
    exact ⟨front, behind, hfront, hbehind, rfl⟩
  · rintro ⟨front, behind, hfront, hbehind, rfl⟩
    exact ⟨front, hfront, behind, hbehind, rfl⟩

/-! ## Mapping -/

/-- A basic character that is no capital. -/
def IsSmall (c : Char) : Prop :=
  c.toNat < 0x80 ∧ c.isUpper = false

/-- **A name is mapped part by part** around a sign that joins nothing. -/
theorem mapName?_append_cons (hc : mapChar? c = some [d]) (hd : isLone d = true) :
    mapName? (xs ++ c :: ys) = some mapped ↔ ∃ front behind,
      mapName? xs = some front ∧ mapName? ys = some behind ∧ mapped = front ++ d :: behind := by
  simp only [mapName?, Option.map_eq_some_iff, mapM_append_eq_some_iff]
  constructor
  · rintro ⟨parts, ⟨front, behind, hfront, hbehind, rfl⟩, rfl⟩
    rw [List.mapM_cons, hc, Option.bind_eq_bind, Option.bind_some, Option.bind_eq_bind,
      Option.bind_eq_some_iff] at hbehind
    obtain ⟨rest, hrest, hparts⟩ := hbehind
    obtain rfl := Option.some.inj hparts
    refine ⟨_, _, ⟨front, hfront, rfl⟩, ⟨rest, hrest, rfl⟩, ?_⟩
    rw [List.flatten_append, List.flatten_cons, List.singleton_append, normalize_append_cons hd]
  · rintro ⟨_, _, ⟨front, hfront, rfl⟩, ⟨rest, hrest, rfl⟩, rfl⟩
    refine ⟨front ++ [d] :: rest, ⟨front, [d] :: rest, hfront, ?_, rfl⟩, ?_⟩
    · rw [List.mapM_cons, hc, hrest]
      rfl
    · rw [List.flatten_append, List.flatten_cons, List.singleton_append, normalize_append_cons hd]

theorem toLower_of_isSmall (h : IsSmall c) : c.toLower = c :=
  dif_neg (of_decide_eq_false h.2)

theorem mapName?_of_small (h : ∀ c ∈ cs, IsSmall c) : mapName? cs = some cs := by
  have hparts : cs.mapM mapChar? = some (cs.map fun c => [c]) := by
    rw [mapM_eq_some_iff, List.forall₂_map_right_iff, List.forall₂_same]
    intro c hc
    rw [mapChar?, if_pos (h c hc).1, toLower_of_isSmall (h c hc)]
  rw [mapName?, hparts, Option.map_some, ← List.flatMap_def, List.flatMap_singleton',
    normalize_of_basic fun c hc => (h c hc).1]

/-! ## Labels -/

theorem splitLabels_ne_nil (cs : List Char) : splitLabels cs ≠ [] := by
  cases cs with
  | nil => exact List.cons_ne_nil _ _
  | cons c cs =>
    unfold splitLabels
    split_ifs
    · exact List.cons_ne_nil _ _
    · split <;> exact List.cons_ne_nil _ _

theorem splitLabels_cons_of_ne (hc : c ≠ '.') (h : splitLabels cs = label :: labels) :
    splitLabels (c :: cs) = (c :: label) :: labels := by
  rw [splitLabels, if_neg hc, h]

theorem splitLabels_append_dot (xs ys : List Char) :
    splitLabels (xs ++ '.' :: ys) = splitLabels xs ++ splitLabels ys := by
  induction xs with
  | nil => exact if_pos rfl
  | cons c xs ih =>
    obtain ⟨label, labels, hlabels⟩ := List.exists_cons_of_ne_nil (splitLabels_ne_nil xs)
    rw [hlabels] at ih
    by_cases hc : c = '.'
    · rw [List.cons_append, splitLabels, if_pos hc, splitLabels, if_pos hc, ih, hlabels]
      rfl
    · rw [List.cons_append, splitLabels_cons_of_ne hc ih, splitLabels_cons_of_ne hc hlabels]
      rfl

theorem joinLabels_cons (label : List Char) (h : labels ≠ []) :
    joinLabels (label :: labels) = label ++ '.' :: joinLabels labels := by
  cases labels with
  | nil => exact absurd rfl h
  | cons next labels => rfl

theorem joinLabels_append (h : labels ≠ []) (h' : labels' ≠ []) :
    joinLabels (labels ++ labels') = joinLabels labels ++ '.' :: joinLabels labels' := by
  induction labels with
  | nil => exact absurd rfl h
  | cons label labels ih =>
    rw [List.cons_append, joinLabels_cons label (List.append_ne_nil_of_right_ne_nil labels h')]
    by_cases hnil : labels = []
    · rw [hnil]
      rfl
    · rw [ih hnil, joinLabels_cons label hnil, List.append_assoc]
      rfl

theorem joinLabels_splitLabels (cs : List Char) : joinLabels (splitLabels cs) = cs := by
  induction cs with
  | nil => rfl
  | cons c cs ih =>
    obtain ⟨label, labels, hlabels⟩ := List.exists_cons_of_ne_nil (splitLabels_ne_nil cs)
    rw [hlabels] at ih
    by_cases hc : c = '.'
    · rw [splitLabels, if_pos hc, hlabels, joinLabels_cons _ (List.cons_ne_nil _ _), ih, hc]
      rfl
    · rw [splitLabels_cons_of_ne hc hlabels]
      cases labels with
      | nil => exact congrArg (c :: ·) ih
      | cons next labels => exact congrArg (c :: ·) ih

theorem mem_of_mem_splitLabels (hl : label ∈ splitLabels cs) (hc : c ∈ label) : c ∈ cs := by
  induction cs generalizing label with
  | nil =>
    rw [splitLabels, List.mem_singleton] at hl
    rw [hl] at hc
    exact hc
  | cons d cs ih =>
    obtain ⟨first, labels, hlabels⟩ := List.exists_cons_of_ne_nil (splitLabels_ne_nil cs)
    by_cases hd : d = '.'
    · rw [splitLabels, if_pos hd, List.mem_cons] at hl
      rcases hl with rfl | hl
      · cases hc
      · exact List.mem_cons_of_mem d (ih hl hc)
    · rw [splitLabels_cons_of_ne hd hlabels, List.mem_cons] at hl
      rcases hl with rfl | hl
      · rcases List.mem_cons.mp hc with rfl | hc
        · exact List.mem_cons_self
        · exact List.mem_cons_of_mem d (ih (hlabels ▸ List.mem_cons_self) hc)
      · exact List.mem_cons_of_mem d (ih (hlabels ▸ List.mem_cons_of_mem first hl) hc)

theorem mem_joinLabels (hc : c ∈ joinLabels labels) : c = '.' ∨ ∃ label ∈ labels, c ∈ label := by
  induction labels with
  | nil => cases hc
  | cons label labels ih =>
    by_cases hnil : labels = []
    · rw [hnil] at hc
      exact .inr ⟨label, List.mem_cons_self, hc⟩
    · rw [joinLabels_cons label hnil, List.mem_append, List.mem_cons] at hc
      rcases hc with hc | rfl | hc
      · exact .inr ⟨label, List.mem_cons_self, hc⟩
      · exact .inl rfl
      · refine (ih hc).imp_right ?_
        rintro ⟨other, hother, hc⟩
        exact ⟨other, List.mem_cons_of_mem label hother, hc⟩

/-! ## Labels rewritten -/

/-- What a label of a mapped name is rewritten to: it stays as it is, or it is written in
Punycode. -/
def Rewrites (label written : List Char) : Prop :=
  (∀ c ∈ label, isBasic c = true) ∧ written = label ∨
    (∃ c ∈ label, isBasic c = false) ∧ written = punycodeSign ++ Punycode.encode label

/-- A label in Punycode that is read is one that is written. -/
theorem readLabel?_of_sign (hsign : punycodeSign.isPrefixOf label = true)
    (hread : readLabel? label = some read) :
    Punycode.decode (label.drop 4) = some read ∧ ∃ c ∈ read, isBasic c = false := by
  simp only [readLabel?, if_pos hsign, Option.bind_eq_bind] at hread
  split_ifs at hread with hlong
  · cases hread
  · simp only [Option.bind_eq_some_iff] at hread
    obtain ⟨decoded, hdecoded, mapped, -, hallowed⟩ := hread
    split_ifs at hallowed with h
    obtain rfl := Option.some.inj hallowed
    exact ⟨hdecoded, by simpa using h.2.1⟩

theorem rewrites_of_read (hsmall : ∀ c ∈ label, c.isUpper = false)
    (hread : readLabel? label = some read) (hwrite : writeLabel? read = some written) :
    Rewrites label written := by
  by_cases hsign : punycodeSign.isPrefixOf label = true
  · obtain ⟨hdecode, c, hc, hbasic⟩ := readLabel?_of_sign hsign hread
    obtain ⟨text, rfl⟩ := List.isPrefixOf_iff_prefix.mp hsign
    have htext : (punycodeSign ++ text).drop 4 = text := rfl
    rw [htext] at hdecode
    have hnot : ¬read.all isBasic = true := fun h => by
      rw [List.all_eq_true.mp h c hc] at hbasic
      cases hbasic
    rw [writeLabel?, if_neg hnot] at hwrite
    split_ifs at hwrite with hlong
    rw [Punycode.encode_of_decode hdecode fun c hc =>
      hsmall c (List.mem_append_right _ hc), Option.some_inj] at hwrite
    refine .inl ⟨fun c hc => ?_, hwrite.symm⟩
    rcases List.mem_append.mp hc with hc | hc
    · have hsign : punycodeSign.all isBasic = true := by decide
      exact List.all_eq_true.mp hsign c hc
    · exact Punycode.isBasic_of_decode hdecode c hc
  · rw [readLabel?, if_neg hsign] at hread
    split_ifs at hread with hbasic hallowed
    · obtain rfl := Option.some.inj hread
      rw [writeLabel?, if_pos hbasic, Option.some_inj] at hwrite
      exact .inl ⟨List.all_eq_true.mp hbasic, hwrite.symm⟩
    · obtain rfl := Option.some.inj hread
      rw [writeLabel?, if_neg hbasic] at hwrite
      split_ifs at hwrite with hlong
      exact .inr ⟨by simpa using hbasic, (Option.some.inj hwrite).symm⟩

/-! ## Basic forms -/

/-- Labels that obey the directional rule, if one of them has letters from right to left. -/
def IsDirected (labels : List (List Char)) : Prop :=
  ¬(labels.flatten.any isRightToLeft = true ∧ (!labels.all directionAllowed) = true)

theorem IsDirected.mono (h : IsDirected labels) (hsub : labels' ⊆ labels) :
    IsDirected labels' := by
  rintro ⟨hright, hall⟩
  refine h ⟨?_, ?_⟩
  · rw [List.any_eq_true] at hright ⊢
    obtain ⟨c, hc, hright⟩ := hright
    obtain ⟨label, hlabel, hc⟩ := List.mem_flatten.mp hc
    exact ⟨c, List.mem_flatten.mpr ⟨label, hsub hlabel, hc⟩, hright⟩
  · rw [Bool.not_eq_true', List.all_eq_false] at hall ⊢
    obtain ⟨label, hlabel, hnot⟩ := hall
    exact ⟨label, hsub hlabel, hnot⟩

/-- A basic form is made of the labels of the mapped name, each read and written. -/
theorem toAscii?_eq_some_iff : toAscii? name = some ascii ↔ ∃ mapped labels written,
    mapName? name = some mapped ∧ mapped.any isForbidden = false ∧
      (splitLabels mapped).mapM readLabel? = some labels ∧ IsDirected labels ∧
      labels.mapM writeLabel? = some written ∧ joinLabels written = ascii := by
  simp only [toAscii?, Option.bind_eq_bind, Option.bind_eq_some_iff]
  constructor
  · rintro ⟨mapped, hmapped, h⟩
    split_ifs at h with hforbidden
    · cases h
    · obtain ⟨labels, hlabels, h⟩ := Option.bind_eq_some_iff.mp h
      split_ifs at h with hdirection
      · cases h
      · obtain ⟨written, hwritten, h⟩ := Option.bind_eq_some_iff.mp h
        exact ⟨mapped, labels, written, hmapped, Bool.eq_false_iff.mpr hforbidden, hlabels,
          hdirection, hwritten, Option.some.inj h⟩
  · rintro ⟨mapped, labels, written, hmapped, hforbidden, hlabels, hdirection, hwritten, rfl⟩
    refine ⟨mapped, hmapped, ?_⟩
    rw [if_neg (Bool.eq_false_iff.mp hforbidden), hlabels, Option.bind_some, if_neg hdirection,
      hwritten]
    rfl

theorem toAscii?_eq_none (hc : mapChar? c = some [d]) (hd : isLone d = true)
    (hforbidden : isForbidden d = true) (xs ys : List Char) : toAscii? (xs ++ c :: ys) = none := by
  rw [Option.eq_none_iff_forall_ne_some]
  intro ascii h
  obtain ⟨mapped, labels, written, hmapped, hnone, -⟩ := toAscii?_eq_some_iff.mp h
  obtain ⟨front, behind, -, -, rfl⟩ := (mapName?_append_cons hc hd).mp hmapped
  rw [List.any_append, List.any_cons, hforbidden, Bool.true_or, Bool.or_true] at hnone
  cases hnone

/-- **The parts of a name around a full stop** have basic forms if the name has. -/
theorem toAscii?_append_dot (h : toAscii? (xs ++ '.' :: ys) = some ascii) : ∃ front behind,
    toAscii? xs = some front ∧ toAscii? ys = some behind ∧ ascii = front ++ '.' :: behind := by
  obtain ⟨mapped, labels, written, hmapped, hforbidden, hlabels, hdirection, hwritten, rfl⟩ :=
    toAscii?_eq_some_iff.mp h
  have hdot : mapChar? '.' = some ['.'] := rfl
  obtain ⟨mx, my, hmx, hmy, rfl⟩ := (mapName?_append_cons hdot rfl).mp hmapped
  rw [splitLabels_append_dot, mapM_append_eq_some_iff] at hlabels
  obtain ⟨lx, ly, hlx, hly, rfl⟩ := hlabels
  obtain ⟨wx, wy, hwx, hwy, rfl⟩ := mapM_append_eq_some_iff.mp hwritten
  rw [List.any_append, List.any_cons, Bool.or_eq_false_iff, Bool.or_eq_false_iff] at hforbidden
  have hne : ∀ {m : List Char} {l w : List (List Char)}, (splitLabels m).mapM readLabel? = some l →
      l.mapM writeLabel? = some w → w ≠ [] := by
    rintro m l w hl hw rfl
    rw [mapM_eq_some_iff, List.forall₂_nil_right_iff] at hw
    rw [hw, mapM_eq_some_iff, List.forall₂_nil_right_iff] at hl
    exact splitLabels_ne_nil m hl
  rw [joinLabels_append (hne hlx hwx) (hne hly hwy)]
  exact ⟨_, _,
    toAscii?_eq_some_iff.mpr ⟨mx, lx, wx, hmx, hforbidden.1, hlx,
      hdirection.mono (List.subset_append_left lx ly), hwx, rfl⟩,
    toAscii?_eq_some_iff.mpr ⟨my, ly, wy, hmy, hforbidden.2.2, hly,
      hdirection.mono (List.subset_append_right lx ly), hwy, rfl⟩, rfl⟩

theorem rewrites_labels (hsmall : ∀ l ∈ labels, ∀ c ∈ l, c.isUpper = false)
    (hread : labels.mapM readLabel? = some labels') {written : List (List Char)}
    (hwrite : labels'.mapM writeLabel? = some written) :
    List.Forall₂ Rewrites labels written := by
  rw [mapM_eq_some_iff] at hread hwrite
  induction hread generalizing written with
  | nil =>
    rw [List.forall₂_nil_left_iff] at hwrite
    rw [hwrite]
    exact .nil
  | cons hfirst _ ih =>
    obtain ⟨first, rest, hfirst', hrest, rfl⟩ := List.forall₂_cons_left_iff.mp hwrite
    rw [List.forall_mem_cons] at hsmall
    exact .cons (rewrites_of_read hsmall.1 hfirst hfirst') (ih hsmall.2 hrest)

theorem isUpper_of_not_forbidden (h : isForbidden c = false) : c.isUpper = false := by
  simp only [isForbidden, Bool.or_eq_false_iff] at h
  exact h.1.1.1

theorem eq_of_rewrites (hbasic : ∀ c ∈ label, isBasic c = true) (h : Rewrites label written) :
    written = label := by
  rcases h with ⟨-, rfl⟩ | ⟨⟨c, hc, hnot⟩, -⟩
  · rfl
  · rw [hbasic c hc] at hnot
    cases hnot

/-- **The basic form of a basic name** without capitals, if there is one, is the name. -/
theorem toAscii?_of_small (hsmall : ∀ c ∈ cs, IsSmall c) (h : toAscii? cs = some ascii) :
    ascii = cs := by
  obtain ⟨mapped, labels, written, hmapped, -, hlabels, -, hwritten, rfl⟩ :=
    toAscii?_eq_some_iff.mp h
  rw [mapName?_of_small hsmall, Option.some_inj] at hmapped
  subst hmapped
  have hlow : ∀ l ∈ splitLabels cs, ∀ c ∈ l, IsSmall c := fun l hl c hc =>
    hsmall c (mem_of_mem_splitLabels hl hc)
  have hwrites : List.Forall₂ Rewrites (splitLabels cs) written :=
    rewrites_labels (fun l hl c hc => (hlow l hl c hc).2) hlabels hwritten
  have hsame : List.Forall₂ (· = ·) (splitLabels cs) written := by
    rw [List.forall₂_iff_get] at hwrites ⊢
    refine ⟨hwrites.1, fun i hi hi' => ?_⟩
    refine (eq_of_rewrites (fun c hc => ?_) (hwrites.2 i hi hi')).symm
    exact decide_eq_true (hlow _ (List.get_mem _ _) c hc).1
  rw [List.forall₂_eq_eq_eq] at hsame
  rw [← hsame, joinLabels_splitLabels]

/-- A basic character that is not forbidden. -/
def IsPermitted (c : Char) : Prop :=
  c.toNat < 0x80 ∧ isForbidden c = false

instance (c : Char) : Decidable (IsPermitted c) :=
  inferInstanceAs (Decidable (_ ∧ _))

theorem permitted_of_rewrites (hlabel : ∀ c ∈ label, isForbidden c = false)
    (h : Rewrites label written) : ∀ c ∈ written, IsPermitted c := by
  have hbasic : ∀ c ∈ label, isBasic c = true → IsPermitted c := fun c hc hb =>
    ⟨of_decide_eq_true hb, hlabel c hc⟩
  rcases h with ⟨hall, rfl⟩ | ⟨-, rfl⟩
  · exact fun c hc => hbasic c hc (hall c hc)
  · have hsign : ∀ c ∈ punycodeSign, IsPermitted c := by
      rw [punycodeSign, List.forall_mem_cons, List.forall_mem_cons, List.forall_mem_cons,
        List.forall_mem_singleton]
      decide
    have hdigits : ∀ value < 36, IsPermitted (Punycode.digit value) := by decide
    intro c hc
    rcases List.mem_append.mp hc with hc | hc
    · exact hsign c hc
    · exact Punycode.forall_mem_encode hdigits (by decide) hbasic c hc

/-- **A basic form holds basic characters**, neither capitals nor other forbidden ones. -/
theorem toAscii?_chars (h : toAscii? name = some ascii) : ∀ c ∈ ascii, IsPermitted c := by
  obtain ⟨mapped, labels, written, -, hforbidden, hlabels, -, hwritten, rfl⟩ :=
    toAscii?_eq_some_iff.mp h
  rw [List.any_eq_false] at hforbidden
  have hfree : ∀ l ∈ splitLabels mapped, ∀ c ∈ l, isForbidden c = false := fun l hl c hc =>
    Bool.eq_false_iff.mpr (hforbidden c (mem_of_mem_splitLabels hl hc))
  have hwrites : List.Forall₂ Rewrites (splitLabels mapped) written :=
    rewrites_labels (fun l hl c hc => isUpper_of_not_forbidden (hfree l hl c hc)) hlabels hwritten
  intro c hc
  rcases mem_joinLabels hc with rfl | ⟨w, hw, hc⟩
  · decide
  · obtain ⟨i, hi, rfl⟩ := List.mem_iff_getElem.mp hw
    obtain ⟨hlength, hget⟩ := List.forall₂_iff_get.mp hwrites
    exact permitted_of_rewrites (hfree _ (List.get_mem _ ⟨i, hlength ▸ hi⟩))
      (hget i (hlength ▸ hi) hi) c hc

end SessionReplay.Idna
