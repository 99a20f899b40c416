import SessionReplay.Json.Record
import SessionReplay.Proofs.Json.Skip

/-!
# Spellings of lists and records

* `WritesOption`, `WritesList` — how a value that may be missing and a list are written;
* `Slot`, `ObjectForm`, `WritesRecord` — how a record is written, as an object or as a list;
* `Reader.optional_reads`, `Reader.list_reads`: these are read as what they write;
* `Fields.Fits` — the fields of a record read what its slots write;
* **`Record.read_reads`**: every spelling of a record is read as that record.
-/

namespace SessionReplay.Json

variable {α : Type} {v tail body : List UInt8} {vs : List (List UInt8)}

/-! ## Values that may be missing -/

/-- A value, or the word `null` in place of none. -/
def WritesOption (W : α → List UInt8 → Prop) : Option α → List UInt8 → Prop
  | none, v => v = Text.bytes "null"
  | some a, v => W a v

theorem Reader.optional_reads {p : Reader α} {W : α → List UInt8 → Prop}
    (hp : ∀ a v, W a v → p.Reads v a ∧ v.head? ≠ some 'n'.toUInt8) {o : Option α}
    (h : WritesOption W o v) : (Reader.optional p).Reads v o := by
  cases o with
  | none =>
    obtain rfl := h
    refine ⟨⟨'n'.toUInt8, Text.bytes "ull", rfl, rfl⟩, fun {ws rest} hws _ => ?_⟩
    change (Reader.optional p).run (ws ++ 'n'.toUInt8 :: (Text.bytes "ull" ++ rest)) = _
    rw [optional, run_bind_of_ok (run_peek_cons hws rfl _), if_pos rfl]
    simp only [wordAfter, run_bind, run_skip, run_word, run_pure]
  | some a =>
    obtain ⟨hread, hne⟩ := hp a v h
    refine ⟨hread.begun, fun hws hrest => ?_⟩
    have hrun := hread.run_front hrest
    obtain ⟨b, tail, rfl, hb⟩ := hread.begun
    rw [List.head?_cons] at hne
    rw [List.cons_append] at hrun ⊢
    rw [optional, run_bind_of_ok (run_peek_cons hws (isBlank_of_not_isSeparator hb) _), if_neg hne,
      run_bind_of_ok hrun, run_pure]

/-! ## Lists -/

/-- Values in square brackets. -/
def WritesList (W : α → List UInt8 → Prop) (as : List α) (v : List UInt8) : Prop :=
  ∃ vs body, List.Forall₂ W as vs ∧ Listed ']'.toUInt8 vs body ∧ v = '['.toUInt8 :: body

theorem Reader.list_reads {p : Reader α} {W : α → List UInt8 → Prop}
    (hp : ∀ a v, W a v → p.Reads v a) {as : List α} (h : WritesList W as v) :
    (Reader.list p).Reads v as := by
  obtain ⟨vs, body, hvs, hbody, rfl⟩ := h
  have hall (before : List α) :
      Brackets.ReadsAll (fun values => do return values ++ [← p]) before vs (before ++ as) := by
    clear hbody
    induction hvs generalizing before with
    | nil =>
      rw [List.append_nil]
      exact .nil
    | cons hv _ ih =>
      rw [List.append_cons]
      exact .cons ((hp _ _ hv).bind_pure rfl) (ih _)
  refine ⟨⟨_, _, rfl, rfl⟩, fun hws hrest => ?_⟩
  rw [list, List.cons_append, run_bind_of_ok (run_peek_cons hws rfl _), if_pos rfl,
    run_bind_of_ok (run_skip _ _)]
  exact Brackets.items_run (.inl rfl) (hall []) hbody _

/-! ## Records -/

/-- How one field of a record is written: its key, its value, and whether it may be left out. -/
structure Slot where
  key : String
  Writes : List UInt8 → Prop
  optional : Prop

/-- **The members of an object write a record.** Each member has the text of its key beside it. The
order of the members does not matter. A field is given once, or not at all if it may be left out;
any other key holds some well-formed value. -/
structure ObjectForm (slots : List Slot) (members : List (String × Member)) : Prop where
  keys : ∀ m ∈ members, WritesText m.1 m.2.key
  blanks : ∀ m ∈ members, Blanks m.2.before ∧ Blanks m.2.after
  once : ∀ slot ∈ slots, (members.map Prod.fst).count slot.key ≤ 1
  given : ∀ slot ∈ slots, slot.key ∈ members.map Prod.fst ∨ slot.optional
  written : ∀ m ∈ members, ∀ slot ∈ slots, slot.key = m.1 → slot.Writes m.2.value
  others : ∀ m ∈ members, (∀ slot ∈ slots, slot.key ≠ m.1) → Value m.2.value

/-- A record is written as an object, or as the list of all its fields in their order. -/
def WritesRecord (slots : List Slot) (v : List UInt8) : Prop :=
  (∃ members body, ObjectForm slots members ∧
    Listed '\x7d'.toUInt8 (members.map fun m => m.2.bytes) body ∧ v = '\x7b'.toUInt8 :: body) ∨
  ∃ vs body, List.Forall₂ Slot.Writes slots vs ∧ Listed ']'.toUInt8 vs body ∧
    v = '['.toUInt8 :: body

namespace Fields

variable {αs : List Type} {seen : List String}

/-- The keys of the fields. -/
def keys {αs : List Type} : Fields αs → List String
  | nil => []
  | cons field fields => field.key :: fields.keys

/-- **The fields of a record read what its slots write**, and put in what is left out. -/
def Fits {αs : List Type} : Fields αs → Row αs → List Slot → Prop
  | nil, _, [] => True
  | cons field fields, (a, row), slot :: slots =>
    field.key = slot.key ∧ (∀ v, slot.Writes v → field.value.Reads v a) ∧
      (slot.optional → field.absent = some a) ∧ fields.Fits row slots
  | _, _, _ => False

/-- The values of the fields that are read so far. -/
def filled {αs : List Type} : Fields αs → Row αs → List String → Slots αs
  | nil, _, _ => ()
  | cons field fields, (a, row), seen =>
    (if field.key ∈ seen then some a else Option.none, fields.filled row seen)

theorem keys_of_fits {fields : Fields αs} {row : Row αs} {slots : List Slot}
    (h : fields.Fits row slots) : fields.keys = slots.map Slot.key := by
  induction fields generalizing slots with
  | nil => cases slots with
    | nil => rfl
    | cons => cases h
  | cons field fields ih => cases slots with
    | nil => cases h
    | cons slot slots =>
      obtain ⟨hkey, -, -, hlater⟩ := h
      rw [keys, List.map_cons, hkey, ih hlater]

theorem find?_of_notMem {fields : Fields αs} {key : String} (h : key ∉ fields.keys)
    (slots : Slots αs) : fields.find? key slots = Option.none := by
  induction fields with
  | nil => rfl
  | cons field fields ih =>
    obtain ⟨slot, slots⟩ := slots
    rw [keys, List.mem_cons, not_or] at h
    rw [find?, if_neg h.1, ih h.2]
    rfl

theorem filled_congr {fields : Fields αs} {row : Row αs} {seen' : List String}
    (h : ∀ key ∈ fields.keys, key ∈ seen ↔ key ∈ seen') :
    fields.filled row seen = fields.filled row seen' := by
  induction fields with
  | nil => rfl
  | cons field fields ih =>
    obtain ⟨a, row⟩ := row
    rw [keys, List.forall_mem_cons] at h
    rw [filled, filled, ih h.2]
    simp only [h.1]
    rfl

theorem filled_nil (fields : Fields αs) (row : Row αs) : fields.filled row [] = fields.none := by
  induction fields with
  | nil => rfl
  | cons field fields ih =>
    obtain ⟨a, row⟩ := row
    rw [filled, none, ih, if_neg List.not_mem_nil]

/-- A key that is not read yet is found, and its value goes to its place. -/
theorem find?_of_mem {fields : Fields αs} {row : Row αs} {slots : List Slot} {key : String}
    (hfits : fields.Fits row slots) (hkeys : fields.keys.Nodup) (hkey : key ∈ fields.keys)
    (hseen : key ∉ seen) :
    ∃ value, fields.find? key (fields.filled row seen) = some (false, value) ∧
      ∃ slot ∈ slots, slot.key = key ∧
        ∀ v, slot.Writes v → value.Reads v (fields.filled row (key :: seen)) := by
  induction fields generalizing slots with
  | nil => cases hkey
  | cons field fields ih => cases slots with
    | nil => cases hfits
    | cons slot slots =>
      obtain ⟨a, row⟩ := row
      obtain ⟨hslot, hread, -, hlater⟩ := hfits
      rw [keys, List.nodup_cons] at hkeys
      rw [filled, find?]
      by_cases hfirst : key = field.key
      · have hrest : fields.filled row (key :: seen) = fields.filled row seen := by
          refine filled_congr fun k hk => ?_
          rw [List.mem_cons, or_iff_right]
          rintro rfl
          exact hkeys.1 (hfirst ▸ hk)
        rw [if_pos hfirst, if_neg (hfirst ▸ hseen)]
        refine ⟨_, rfl, slot, List.mem_cons_self, (hfirst.trans hslot).symm, fun v hv => ?_⟩
        rw [filled, hrest, if_pos (hfirst ▸ List.mem_cons_self)]
        exact (hread v hv).bind_pure rfl
      · rw [keys, List.mem_cons, or_iff_right hfirst] at hkey
        obtain ⟨value, hfind, s, hs, hskey, hvalue⟩ := ih hlater hkeys.2 hkey
        rw [if_neg hfirst, hfind]
        refine ⟨_, rfl, s, List.mem_cons_of_mem _ hs, hskey, fun v hv => ?_⟩
        rw [filled]
        simp only [List.mem_cons, Ne.symm hfirst, false_or]
        exact (hvalue v hv).bind_pure rfl

/-- Fields that are left out get the values that stand for them. -/
theorem complete_filled {fields : Fields αs} {row : Row αs} {slots : List Slot}
    (hfits : fields.Fits row slots) (hgiven : ∀ slot ∈ slots, slot.key ∈ seen ∨ slot.optional) :
    fields.complete (fields.filled row seen) = .ok row := by
  induction fields generalizing slots with
  | nil => rfl
  | cons field fields ih => cases slots with
    | nil => cases hfits
    | cons slot slots =>
      obtain ⟨a, row⟩ := row
      obtain ⟨hslot, -, habsent, hlater⟩ := hfits
      rw [List.forall_mem_cons, ← hslot] at hgiven
      have hvalue :
          (if field.key ∈ seen then some a else Option.none).or field.absent = some a := by
        split_ifs with hseen
        · rfl
        · exact habsent (hgiven.1.resolve_left hseen)
      rw [filled, complete, hvalue, ih hlater hgiven.2]

/-! ## Objects -/

theorem colon_run {ws : List UInt8} (hws : Blanks ws) (s : List UInt8) :
    colon.run (ws ++ ':'.toUInt8 :: s) = .ok ((), s) := by
  rw [colon, Reader.run_bind_of_ok (Reader.run_peek_cons hws rfl _)]
  rfl

/-- The key of a member and the colon after it are passed over before its value. -/
theorem member_reads {fields : Fields αs} {key : String} {m : Member} {slots final : Slots αs}
    (hkey : WritesText key m.key) (hbefore : Blanks m.before) (hafter : Blanks m.after)
    (hvalue : (∃ value, fields.find? key slots = some (false, value) ∧ value.Reads m.value final) ∨
      fields.find? key slots = Option.none ∧ Value m.value ∧ final = slots) :
    (fields.member slots).Reads m.bytes final := by
  have hbegun : Begun m.bytes := by
    obtain ⟨b, tail, hm, hb⟩ := begun_of_writesText hkey
    exact ⟨b, _, by rw [Member.bytes, hm]; rfl, hb⟩
  refine ⟨hbegun, fun {ws rest} hws hrest => ?_⟩
  obtain ⟨pieces, hpieces, hm⟩ := hkey
  have htext := readText_run hpieces (m.before ++ ':'.toUInt8 :: (m.after ++ (m.value ++ rest)))
  have hcolon := colon_run hbefore (m.after ++ (m.value ++ rest))
  rw [Member.bytes, hm]
  simp only [List.append_assoc, List.cons_append, List.nil_append]
  rw [member, Reader.run_bind_of_ok (Reader.run_peek_cons hws rfl _)]
  obtain ⟨value, hfind, hread⟩ | ⟨hfind, hskip, rfl⟩ := hvalue
  · simp only [ne_eq, not_true_eq_false, if_false, Reader.run_bind, Reader.run_skip, htext, hfind,
      hcolon, hread.run hafter hrest]
  · simp only [ne_eq, not_true_eq_false, if_false, Reader.run_bind, Reader.run_skip, htext, hfind,
      hcolon, skipValue_run hskip hafter hrest, Reader.run_pure]

variable {fields : Fields αs} {row : Row αs} {slots : List Slot}

/-- A member fills the place of its key, or it is passed over. -/
theorem member_fills (hfits : fields.Fits row slots) (hkeys : fields.keys.Nodup) {key : String}
    {m : Member} (hkey : WritesText key m.key) (hbefore : Blanks m.before) (hafter : Blanks m.after)
    (hseen : key ∈ fields.keys → key ∉ seen)
    (hwritten : ∀ slot ∈ slots, slot.key = key → slot.Writes m.value)
    (hother : (∀ slot ∈ slots, slot.key ≠ key) → Value m.value) :
    (fields.member (fields.filled row seen)).Reads m.bytes (fields.filled row (key :: seen)) := by
  refine member_reads hkey hbefore hafter ?_
  by_cases hmem : key ∈ fields.keys
  · obtain ⟨value, hfind, slot, hslot, hslotkey, hvalue⟩ :=
      find?_of_mem hfits hkeys hmem (hseen hmem)
    exact .inl ⟨value, hfind, hvalue _ (hwritten slot hslot hslotkey)⟩
  · refine .inr ⟨find?_of_notMem hmem _, hother ?_, filled_congr fun k hk => ?_⟩
    · rintro slot hslot rfl
      rw [keys_of_fits hfits] at hmem
      exact hmem (List.mem_map_of_mem hslot)
    · rw [List.mem_cons, or_iff_right]
      rintro rfl
      exact hmem hk

/-- **The members of an object are read one after the other.** What is filled after some of them
depends only on their keys. -/
theorem members_read (hfits : fields.Fits row slots) (hkeys : fields.keys.Nodup)
    {members : List (String × Member)} (hform : ∀ m ∈ members, WritesText m.1 m.2.key ∧
      Blanks m.2.before ∧ Blanks m.2.after)
    (honce : ∀ slot ∈ slots, (members.map Prod.fst).count slot.key ≤ 1)
    (hseen : ∀ slot ∈ slots, slot.key ∈ seen → slot.key ∉ members.map Prod.fst)
    (hwritten : ∀ m ∈ members, ∀ slot ∈ slots, slot.key = m.1 → slot.Writes m.2.value)
    (hothers : ∀ m ∈ members, (∀ slot ∈ slots, slot.key ≠ m.1) → Value m.2.value) :
    Brackets.ReadsAll fields.member (fields.filled row seen) (members.map fun m => m.2.bytes)
      (fields.filled row ((members.map Prod.fst).reverse ++ seen)) := by
  induction members generalizing seen with
  | nil => exact .nil
  | cons m members ih =>
    rw [List.forall_mem_cons] at hform hwritten hothers
    obtain ⟨⟨hkey, hbefore, hafter⟩, hform⟩ := hform
    have hfirst : m.1 ∈ fields.keys → m.1 ∉ seen := by
      rw [keys_of_fits hfits]
      intro hmem hin
      obtain ⟨slot, hslot, hslotkey⟩ := List.mem_map.mp hmem
      rw [← hslotkey] at hin
      exact hseen slot hslot hin (hslotkey ▸ List.mem_cons_self)
    have hstep := member_fills hfits hkeys hkey hbefore hafter hfirst hwritten.1 hothers.1
    have honce' : ∀ slot ∈ slots, (members.map Prod.fst).count slot.key ≤ 1 := fun slot hslot =>
      Nat.le_trans ((List.sublist_cons_self _ _).count_le _) (honce slot hslot)
    have hseen' : ∀ slot ∈ slots, slot.key ∈ m.1 :: seen → slot.key ∉ members.map Prod.fst := by
      intro slot hslot hin
      rcases List.mem_cons.mp hin with heq | hin
      · have hcount := honce slot hslot
        rw [List.map_cons, ← heq, List.count_cons_self] at hcount
        rw [← List.count_eq_zero]
        omega
      · exact fun hmem => hseen slot hslot hin (List.mem_cons_of_mem _ hmem)
    rw [List.map_cons, List.map_cons, List.reverse_cons, List.append_assoc, List.singleton_append]
    exact .cons hstep (ih hform honce' hseen' hwritten.2 hothers.2)

/-- **A record that is written as an object is read as that record.** -/
theorem object_run (hfits : fields.Fits row slots) (hkeys : fields.keys.Nodup)
    {members : List (String × Member)} (h : ObjectForm slots members)
    (hbody : Listed '\x7d'.toUInt8 (members.map fun m => m.2.bytes) body) (rest : List UInt8) :
    ∃ final,
      (Brackets.curly.items fields.member fields.none).run (body ++ rest) = .ok (final, rest) ∧
        fields.complete final = .ok row := by
  have hread := members_read hfits hkeys (fun m hm => ⟨h.keys m hm, h.blanks m hm⟩) h.once
    (fun _ _ => List.not_mem_nil.elim) h.written h.others
  rw [filled_nil, List.append_nil] at hread
  refine ⟨_, Brackets.items_run (.inr rfl) hread hbody rest,
    complete_filled hfits fun slot hslot => ?_⟩
  rw [List.mem_reverse]
  exact h.given slot hslot

/-! ## Lists of all fields -/

theorem inOrder_run_cons (name : String) (total index : Nat) {field : Field α} {a : α}
    {s r r' r'' : List UInt8} (hmore : (hasValue index).run s = .ok (true, r))
    (hvalue : field.value.run r = .ok (a, r'))
    (hlater : (inOrder name total fields (index + 1) false).run r' = .ok (row, r'')) :
    (inOrder name total (cons field fields) index false).run s = .ok ((a, row), r'') := by
  have hended : ((fun more => !more) <$> hasValue index).run s = .ok (false, r) := by
    change (hasValue index >>= fun more => pure !more).run s = _
    rw [Reader.run_bind_of_ok hmore]
    rfl
  rw [inOrder]
  simp only [Bool.false_eq_true, if_false, Reader.run_bind, hended]
  exact (Reader.run_bind_of_ok hvalue).trans (Reader.run_bind_of_ok hlater)

/-- The fields after the first one, up to the closing bracket, which stays. -/
theorem inOrder_run_continued (name : String) (total index : Nat) (hfits : fields.Fits row slots)
    (hvs : List.Forall₂ Slot.Writes slots vs) (hc : Continued ']'.toUInt8 vs tail)
    (rest : List UInt8) :
    ∃ ws, Blanks ws ∧ (inOrder name total fields (index + 1) false).run (tail ++ rest) =
      .ok (row, ws ++ ']'.toUInt8 :: rest) := by
  induction fields generalizing slots vs tail index with
  | nil => cases slots with
    | cons => cases hfits
    | nil =>
      cases hvs
      cases hc with
      | ended hws => exact ⟨_, hws, by rw [List.append_assoc]; rfl⟩
  | cons field fields ih => cases slots with
    | nil => cases hfits
    | cons slot slots =>
      obtain ⟨a, row⟩ := row
      obtain ⟨-, hread, -, hlater⟩ := hfits
      cases hvs with
      | cons hv hvs => cases hc with
        | next hws hws' hc =>
          have hfirst := hread _ hv
          obtain ⟨ws, hend, hrun⟩ := ih (index + 1) hlater hvs hc
          refine ⟨ws, hend, ?_⟩
          simp only [List.append_assoc, List.cons_append]
          have hvalue := hfirst.run_front (delimited_of_continued (.inl rfl) hc rest)
          exact inOrder_run_cons name total _
            (Brackets.hasNext_comma (.inl rfl) hws hws' hfirst.begun _) hvalue hrun

/-- All fields, up to the closing bracket, which stays. -/
theorem inOrder_run_listed (name : String) (total : Nat) (hfits : fields.Fits row slots)
    (hvs : List.Forall₂ Slot.Writes slots vs) (hbody : Listed ']'.toUInt8 vs body)
    (rest : List UInt8) :
    ∃ ws, Blanks ws ∧ (inOrder name total fields 0 false).run (body ++ rest) =
      .ok (row, ws ++ ']'.toUInt8 :: rest) := by
  cases fields with
  | nil => cases slots with
    | cons => cases hfits
    | nil =>
      cases hvs
      cases hbody with
      | none hws => exact ⟨_, hws, by rw [List.append_assoc]; rfl⟩
  | cons field fields => cases slots with
    | nil => cases hfits
    | cons slot slots =>
      obtain ⟨a, row⟩ := row
      obtain ⟨-, hread, -, hlater⟩ := hfits
      cases hvs with
      | cons hv hvs => cases hbody with
        | some hws hc =>
          have hfirst := hread _ hv
          obtain ⟨ws, hend, hrun⟩ := inOrder_run_continued name total 0 hlater hvs hc rest
          refine ⟨ws, hend, ?_⟩
          simp only [List.append_assoc]
          have hvalue := hfirst.run_front (delimited_of_continued (.inl rfl) hc rest)
          exact inOrder_run_cons name total _
            (Brackets.hasFirst_begun (.inl rfl) hws hfirst.begun _) hvalue hrun

theorem listEnd_run {ws : List UInt8} (hws : Blanks ws) (rest : List UInt8) :
    listEnd.run (ws ++ ']'.toUInt8 :: rest) = .ok ((), rest) := by
  rw [listEnd, Reader.run_bind_of_ok (Reader.run_peek_cons hws rfl _)]
  rfl

end Fields

/-- **Every spelling of a record is read as that record.** -/
theorem Record.read_reads {αs : List Type} {record : Record αs} {row : Row αs} {slots : List Slot}
    (hfits : record.fields.Fits row slots) (hkeys : record.fields.keys.Nodup)
    (h : WritesRecord slots v) : record.read.Reads v row := by
  obtain ⟨members, body, hform, hbody, rfl⟩ | ⟨vs, body, hvs, hbody, rfl⟩ := h
  · refine ⟨⟨_, _, rfl, rfl⟩, fun {ws rest} hws hrest => ?_⟩
    obtain ⟨final, hrun, hcomplete⟩ := Fields.object_run hfits hkeys hform hbody rest
    have hother : some '\x7b'.toUInt8 ≠ some '['.toUInt8 := by decide
    rw [read, List.cons_append, Reader.run_bind_of_ok (Reader.run_peek_cons hws rfl _)]
    simp only [hother, if_false, if_true, Reader.run_bind, Reader.run_skip, hrun, hcomplete,
      Reader.run_pure]
  · refine ⟨⟨_, _, rfl, rfl⟩, fun {ws rest} hws hrest => ?_⟩
    obtain ⟨ws', hws', hrun⟩ :=
      Fields.inOrder_run_listed record.name record.fields.count hfits hvs hbody rest
    rw [read, List.cons_append, Reader.run_bind_of_ok (Reader.run_peek_cons hws rfl _)]
    simp only [if_true, Reader.run_bind, Reader.run_skip, hrun, Fields.listEnd_run hws',
      Reader.run_pure]

end SessionReplay.Json
