import Mathlib.Data.List.Nodup
import SessionReplay.Toml.Read

/-!
# Keys of settings files

* `Entries.keys` — the keys of a table;
* `keys_replace`, `nodup_push`: another value changes no keys, and a new key is none of those there;
* `nodup_addKey?`, `nodup_within?`, `nodup_addSection?`: no line gives a key a second place in its
  table;
* **`nodup_read?`**: in what is read of a file, each key stands once.
-/

namespace SessionReplay.Toml

variable {entries after : Entries} {key : String} {value : Value} {path : List String}
  {pairs : List Pair}

namespace Entries

/-- The keys of a table. -/
def keys (entries : Entries) : List String := entries.map Prod.fst

theorem lookup_eq_none_iff : entries.lookup key = none ↔ key ∉ entries.keys := by
  rw [List.lookup_eq_none_iff, keys, List.mem_map, not_exists]
  refine forall_congr' fun entry => ?_
  rw [not_and, bne_iff_ne, ne_comm]

theorem keys_replace : (entries.replace key value).keys = entries.keys := by
  rw [keys, keys, replace, List.map_map]
  refine List.map_congr_left fun entry _ => ?_
  rw [Function.comp_apply]
  split_ifs with hkey
  · exact hkey.symm
  · rfl

theorem nodup_push (h : entries.keys.Nodup) (hnone : entries.lookup key = none) :
    (entries.push key value).keys.Nodup := by
  rw [keys, push, List.map_append]
  exact h.append (List.nodup_singleton key)
    (List.disjoint_singleton.mpr (lookup_eq_none_iff.mp hnone))

theorem nodup_replace (h : entries.keys.Nodup) : (entries.replace key value).keys.Nodup := by
  rwa [keys_replace]

/-- What is put where a key was taken out is there once. -/
theorem nodup_remove_push (h : entries.keys.Nodup) :
    ((entries.remove key).push key value).keys.Nodup := by
  refine nodup_push ((List.filter_sublist.map Prod.fst).nodup h) (lookup_eq_none_iff.mpr ?_)
  rw [keys, List.mem_map]
  rintro ⟨entry, hentry, hkey⟩
  exact of_decide_eq_true (List.mem_filter.mp hentry).2 hkey

/-- A change that needs another value first gives no key a second place, whatever that value is. -/
theorem nodup_of_bind {α : Type} {found : Option α} {change : α → Entries}
    (h : ∀ a, (change a).keys.Nodup) (hbind : (found >>= fun a => some (change a)) = some after) :
    after.keys.Nodup := by
  obtain ⟨a, -, hchange⟩ := Option.bind_eq_some_iff.mp hbind
  cases hchange
  exact h a

theorem nodup_addKey? {isOpen : Bool} (h : entries.keys.Nodup)
    (hadd : entries.addKey? value path isOpen = some after) : after.keys.Nodup := by
  cases path with
  | nil => cases hadd
  | cons key path =>
    cases path with
    | nil =>
      rw [addKey?] at hadd
      split_ifs at hadd with hfree
      cases hadd
      exact nodup_push h (Option.isNone_iff_eq_none.mp hfree.2)
    | cons next path =>
      rw [addKey?] at hadd
      · split at hadd
        · next hnone => exact nodup_of_bind (fun _ => nodup_push h hnone) hadd
        · split_ifs at hadd
          exact nodup_of_bind (fun _ => nodup_replace h) hadd
        · split at hadd
          · cases hadd
          · exact nodup_of_bind (fun _ => nodup_replace h) hadd
        · cases hadd
      · exact List.cons_ne_nil next path

theorem nodup_within? {change : Entries → Option Entries} (h : entries.keys.Nodup)
    (hchange : ∀ after, change entries = some after → after.keys.Nodup)
    (hwithin : entries.within? change path = some after) : after.keys.Nodup := by
  cases path with
  | nil => exact hchange after hwithin
  | cons key path =>
    rw [within?] at hwithin
    split at hwithin
    · next hnone => exact nodup_of_bind (fun _ => nodup_push h hnone) hwithin
    · exact nodup_of_bind (fun _ => nodup_replace h) hwithin
    · split at hwithin
      · cases hwithin
      · exact nodup_of_bind (fun _ => nodup_replace h) hwithin
    · cases hwithin

end Entries

/-! ## Lines -/

theorem nodup_addPairs? (h : entries.keys.Nodup) (hadd : addPairs? pairs entries = some after) :
    after.keys.Nodup := by
  induction pairs generalizing entries with
  | nil =>
    cases hadd
    exact h
  | cons pair pairs ih =>
    obtain ⟨middle, hkey, hrest⟩ := Option.bind_eq_some_iff.mp hadd
    exact ih (Entries.nodup_addKey? h hkey) hrest

theorem nodup_openTable? (h : entries.keys.Nodup)
    (hopen : openTable? key pairs entries = some after) : after.keys.Nodup := by
  unfold openTable? at hopen
  split at hopen
  · next hnone => exact Entries.nodup_of_bind (fun _ => Entries.nodup_push h hnone) hopen
  · exact Entries.nodup_of_bind (fun _ => Entries.nodup_remove_push h) hopen
  · cases hopen

theorem nodup_openItem? (h : entries.keys.Nodup)
    (hopen : openItem? key pairs entries = some after) : after.keys.Nodup := by
  unfold openItem? at hopen
  split at hopen
  · next hnone => exact Entries.nodup_of_bind (fun _ => Entries.nodup_push h hnone) hopen
  · exact Entries.nodup_of_bind (fun _ => Entries.nodup_replace h) hopen
  · cases hopen

theorem nodup_addSection? {s : Section} (h : entries.keys.Nodup)
    (hadd : addSection? entries s = some after) : after.keys.Nodup := by
  unfold addSection? at hadd
  split at hadd
  · obtain ⟨⟨parents, key⟩, -, hwithin⟩ := Option.bind_eq_some_iff.mp hadd
    exact Entries.nodup_within? h (fun _ => nodup_openTable? h) hwithin
  · obtain ⟨⟨parents, key⟩, -, hwithin⟩ := Option.bind_eq_some_iff.mp hadd
    exact Entries.nodup_within? h (fun _ => nodup_openItem? h) hwithin

theorem nodup_addSections? {sections : List Section} (h : entries.keys.Nodup)
    (hadd : sections.foldlM addSection? entries = some after) : after.keys.Nodup := by
  induction sections generalizing entries with
  | nil =>
    cases hadd
    exact h
  | cons s sections ih =>
    obtain ⟨middle, hfirst, hrest⟩ := Option.bind_eq_some_iff.mp hadd
    exact ih (nodup_addSection? h hfirst) hrest

/-- **Each key of a settings file stands once.** -/
theorem nodup_read? {document : String} (h : read? document = some entries) :
    entries.keys.Nodup := by
  obtain ⟨⟨lines, rest⟩, -, hlines⟩ := Option.bind_eq_some_iff.mp h
  obtain ⟨front, hpairs, hsections⟩ := Option.bind_eq_some_iff.mp hlines
  have hempty : (Entries.keys []).Nodup := List.nodup_nil
  exact nodup_addSections? (nodup_addPairs? hempty hpairs) hsections

end SessionReplay.Toml
