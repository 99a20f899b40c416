import Mathlib.Data.List.Induction
import Mathlib.Data.List.Nodup
import Mathlib.Tactic.SplitIfs
import SessionReplay.Capture.Archive

/-!
# Objects of texts

An object literal defines its properties one after the other, and a name that is defined again has
its later value. One name is special: under it a literal sets the prototype of its object and
defines no property. A text is no prototype, so that nothing comes of such a definition; a literal
with two of them is refused before it is evaluated.

* `Properties` — the properties of an object, without those of its prototype;
* `Properties.define`, `Properties.ofFields?` — one definition, and the object of a literal;
* `ofFields?_apply`: each name but the special one has the value that is defined last;
* `ofFields?_of_nodup`: names that differ have the values that they are defined with;
* **`exists_keeps_iff`**: when an object keeps all that its literal defines.
-/

namespace SessionReplay.Script

open Capture (NamedValue)

/-- The properties of an object whose values are texts: the value under each name, if there is
one. -/
abbrev Properties : Type := String → Option String

/-- The name under which a literal sets the prototype of its object. -/
def prototypeName : String := "__proto__"

/-- A named value as a field of a literal. -/
def fieldOf (value : NamedValue) : String × String := (value.name, value.value)

namespace Properties

/-- One definition of a literal. -/
def define (object : Properties) (field : String × String) : Properties :=
  if field.1 = prototypeName then object else Function.update object field.1 (some field.2)

/-- **The object of a literal** with these definitions. -/
def ofFields? (fields : List (String × String)) : Option Properties :=
  if (fields.map Prod.fst).count prototypeName ≤ 1 then
    some (fields.foldl define fun _ => none)
  else none

/-- An object has all properties that are defined. -/
def Keeps (object : Properties) (fields : List (String × String)) : Prop :=
  ∀ field ∈ fields, object field.1 = some field.2

variable {object : Properties} {fields : List (String × String)} {name value : String}

/-! ## Looking up -/

theorem foldl_define (fields : List (String × String)) (name : String) :
    fields.foldl define (fun _ => none) name =
      if name = prototypeName then none else fields.reverse.lookup name := by
  induction fields using List.reverseRecOn with
  | nil => simp
  | append_singleton fields field ih =>
    rw [List.foldl_append, List.foldl_cons, List.foldl_nil, define, List.reverse_append,
      List.reverse_singleton, List.singleton_append, List.lookup_cons]
    by_cases hname : name = field.1
    · subst hname
      split_ifs with hproto
      · rw [ih, if_pos hproto]
      · simp
    · have hother : (name == field.1) = false := beq_false_of_ne hname
      rw [hother, ← ih]
      split_ifs
      · rfl
      · exact Function.update_of_ne hname ..

/-- **Each name has the value that is defined last**, but the special name has none. -/
theorem ofFields?_apply (h : ofFields? fields = some object) (name : String) :
    object name = if name = prototypeName then none else fields.reverse.lookup name := by
  rw [ofFields?] at h
  split_ifs at h
  cases h
  exact foldl_define fields name

theorem ofFields?_eq_none_iff :
    ofFields? fields = none ↔ 2 ≤ (fields.map Prod.fst).count prototypeName := by
  rw [ofFields?]
  split_ifs with h
  · exact iff_of_false nofun (by omega)
  · exact iff_of_true rfl (by omega)

theorem exists_ofFields? (h : (fields.map Prod.fst).count prototypeName ≤ 1) :
    ∃ object, ofFields? fields = some object := ⟨_, if_pos h⟩

/-- A value that is looked up stands in the list. -/
theorem mem_of_lookup (h : fields.reverse.lookup name = some value) : (name, value) ∈ fields := by
  obtain ⟨before, after, heq, -⟩ := List.lookup_eq_some_iff.mp h
  have hmem : (name, value) ∈ fields.reverse := by
    rw [heq]
    exact List.mem_append_right _ List.mem_cons_self
  exact List.mem_reverse.mp hmem

theorem exists_lookup (h : (name, value) ∈ fields) :
    ∃ last, fields.reverse.lookup name = some last := by
  cases hlookup : fields.reverse.lookup name with
  | some last => exact ⟨last, rfl⟩
  | none =>
    have hne := List.lookup_eq_none_iff.mp hlookup _ (List.mem_reverse.mpr h)
    simp at hne

/-- The fields of a list say one value under each name. -/
def Consistent (fields : List (String × String)) : Prop :=
  ∀ a ∈ fields, ∀ b ∈ fields, a.1 = b.1 → a.2 = b.2

theorem Consistent.lookup_eq (h : Consistent fields) (hmem : (name, value) ∈ fields) :
    fields.reverse.lookup name = some value := by
  obtain ⟨last, hlast⟩ := exists_lookup hmem
  exact hlast.trans (congrArg some (h _ (mem_of_lookup hlast) _ hmem rfl))

theorem consistent_of_nodup (h : (fields.map Prod.fst).Nodup) : Consistent fields :=
  fun _ ha _ hb hname => congrArg Prod.snd (List.inj_on_of_nodup_map h ha hb hname)

/-! ## What is kept -/

/-- **Names that differ** have the values that they are defined with, but the special name has
none. -/
theorem ofFields?_of_nodup (h : (fields.map Prod.fst).Nodup) :
    ∃ object, ofFields? fields = some object ∧
      ∀ name value, object name = some value ↔
        name ≠ prototypeName ∧ (name, value) ∈ fields := by
  obtain ⟨object, hobject⟩ := exists_ofFields? (List.nodup_iff_count_le_one.mp h prototypeName)
  refine ⟨object, hobject, fun name value => ?_⟩
  rw [ofFields?_apply hobject]
  split_ifs with hname
  · exact iff_of_false nofun fun h => h.1 hname
  · rw [and_iff_right hname]
    exact ⟨mem_of_lookup, (consistent_of_nodup h).lookup_eq⟩

/-- **When an object keeps all that its literal defines**: the special name is not among it, and no
name is defined with two values. -/
theorem exists_keeps_iff (fields : List (String × String)) :
    (∃ object, ofFields? fields = some object ∧ object.Keeps fields) ↔
      (∀ field ∈ fields, field.1 ≠ prototypeName) ∧ Consistent fields := by
  constructor
  · rintro ⟨object, hobject, hkeeps⟩
    refine ⟨fun field hfield hname => ?_, fun a ha b hb hname => ?_⟩
    · have hnone := ofFields?_apply hobject field.1
      rw [if_pos hname, hkeeps field hfield] at hnone
      cases hnone
    · have hvalue := hkeeps a ha
      rw [hname, hkeeps b hb] at hvalue
      exact (Option.some.inj hvalue).symm
  · rintro ⟨hnames, hconsistent⟩
    have hnone : prototypeName ∉ fields.map Prod.fst := by
      rw [List.mem_map]
      rintro ⟨field, hfield, hname⟩
      exact hnames field hfield hname
    have hcount : (fields.map Prod.fst).count prototypeName ≤ 1 := by
      rw [List.count_eq_zero.mpr hnone]
      exact Nat.zero_le 1
    obtain ⟨object, hobject⟩ := exists_ofFields? hcount
    refine ⟨object, hobject, fun field hfield => ?_⟩
    rw [ofFields?_apply hobject, if_neg (hnames field hfield)]
    exact hconsistent.lookup_eq hfield

/-- The same of named values. -/
theorem exists_keeps_values_iff {values : List NamedValue} :
    (∃ object, ofFields? (values.map fieldOf) = some object ∧
      ∀ v ∈ values, object v.name = some v.value) ↔
    (∀ v ∈ values, v.name ≠ prototypeName) ∧
      ∀ v ∈ values, ∀ w ∈ values, v.name = w.name → v.value = w.value := by
  have h := exists_keeps_iff (values.map fieldOf)
  simpa only [Keeps, Consistent, List.forall_mem_map, fieldOf] using h

end Properties

end SessionReplay.Script
