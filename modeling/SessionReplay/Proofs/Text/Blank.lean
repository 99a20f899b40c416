import Mathlib.Data.List.DropRight
import SessionReplay.Text.Blank

/-!
# Trimmed texts

* `head?_trim`, `getLast?_trim`: a trimmed text neither begins nor ends with white space;
* `mem_of_mem_trim`: nothing is added to it;
* `trim_of_ends`: a text that neither begins nor ends with white space is trimmed.
-/

namespace SessionReplay.Text

theorem dropEndWhile_eq {α : Type} (p : α → Bool) (xs : List α) :
    dropEndWhile p xs = xs.rdropWhile p := rfl

theorem dropWhile_of_head? {p : Char → Bool} {cs : List Char}
    (h : ∀ c ∈ cs.head?, p c = false) : cs.dropWhile p = cs := by
  cases cs with
  | nil => rfl
  | cons c cs => exact List.dropWhile_cons_of_neg (by rw [h c rfl]; decide)

theorem dropEndWhile_of_getLast? {p : Char → Bool} {cs : List Char}
    (h : ∀ c ∈ cs.getLast?, p c = false) : dropEndWhile p cs = cs := by
  rw [dropEndWhile, dropWhile_of_head? (by rwa [List.head?_reverse]), List.reverse_reverse]

theorem dropEndWhile_append {p : Char → Bool} {cs ds : List Char} (h : ∀ c ∈ ds, p c = true) :
    dropEndWhile p (cs ++ ds) = dropEndWhile p cs := by
  rw [dropEndWhile, List.reverse_append,
    List.dropWhile_append_of_pos fun c hc => h c (List.mem_reverse.mp hc)]
  rfl

/-- A text without white space at its ends is trimmed. -/
theorem trim_of_ends {s : String} (hhead : ∀ c ∈ s.toList.head?, isBlank c = false)
    (hlast : ∀ c ∈ s.toList.getLast?, isBlank c = false) : trim s = s := by
  rw [trim, trimChars, dropWhile_of_head? hhead, dropEndWhile_of_getLast? hlast,
    String.ofList_toList]

/-- A trimmed text does not begin with white space. -/
theorem head?_trim {s : String} {c : Char} (h : (trim s).toList.head? = some c) :
    isBlank c = false := by
  rw [trim, String.toList_ofList, trimChars, dropEndWhile_eq] at h
  obtain ⟨rest, hrest⟩ := List.rdropWhile_prefix isBlank (l := s.toList.dropWhile isBlank)
  have hfront : (s.toList.dropWhile isBlank).head? = some c := by
    rw [← hrest, List.head?_append, h, Option.some_or]
  have hnot := List.head?_dropWhile_not isBlank s.toList
  rwa [hfront] at hnot

/-- A trimmed text does not end with white space. -/
theorem getLast?_trim {s : String} {c : Char} (h : (trim s).toList.getLast? = some c) :
    isBlank c = false := by
  rw [trim, String.toList_ofList, trimChars, dropEndWhile, List.getLast?_reverse] at h
  have hnot := List.head?_dropWhile_not isBlank (s.toList.dropWhile isBlank).reverse
  rwa [h] at hnot

theorem mem_of_mem_trim {s : String} {c : Char} (h : c ∈ (trim s).toList) : c ∈ s.toList := by
  rw [trim, String.toList_ofList, trimChars, dropEndWhile_eq] at h
  exact (List.dropWhile_suffix isBlank).subset ((List.rdropWhile_prefix isBlank _).subset h)

end SessionReplay.Text
