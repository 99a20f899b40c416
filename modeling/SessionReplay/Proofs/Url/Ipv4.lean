import Mathlib.Tactic.Ring
import SessionReplay.Proofs.Idna.Domain
import SessionReplay.Url.Ipv4

/-!
# Names of four-byte addresses

* `labels_cons_dot`, `labels_append_dot`: the labels of a name with a full stop in front or behind;
* `endsInNumber_cons_dot`, `endsInNumber_append_replicate`: a full stop in front or a single one
  behind does not matter, a name with more of them behind is no address;
* **`text_of_parse_text`**: the text of an address is read as an address with that text.
-/

namespace SessionReplay.Url.Ipv4

open SessionReplay.Idna

variable {cs : List Char} {a b c d n : Nat}

/-! ## Full stops -/

theorem labels_of_ne (h : (splitLabels cs).getLast? ≠ some []) : labels cs = splitLabels cs :=
  if_neg h

theorem labels_append_nil {front : List (List Char)} (h : splitLabels cs = front ++ [[]]) :
    labels cs = front := by
  rw [labels, h, if_pos List.getLast?_concat, List.dropLast_concat]

/-- The last label is not empty if the name does not end with a full stop. -/
theorem getLast?_splitLabels_ne (hcs : cs ≠ []) (h : cs.getLast? ≠ some '.') :
    (splitLabels cs).getLast? ≠ some [] := by
  intro hlast
  obtain ⟨front, hfront⟩ := List.getLast?_eq_some_iff.mp hlast
  have hjoin := joinLabels_splitLabels cs
  rw [hfront] at hjoin
  by_cases hnil : front = []
  · rw [hnil] at hjoin
    exact hcs hjoin.symm
  · rw [joinLabels_append hnil (List.cons_ne_nil _ _)] at hjoin
    rw [← hjoin] at h
    exact h List.getLast?_concat

theorem labels_cons_dot (cs : List Char) : labels ('.' :: cs) = [] :: labels cs := by
  have hsplit : splitLabels ('.' :: cs) = [] :: splitLabels cs := if_pos rfl
  by_cases hlast : (splitLabels cs).getLast? = some []
  · obtain ⟨front, hfront⟩ := List.getLast?_eq_some_iff.mp hlast
    have hsplit' : splitLabels ('.' :: cs) = ([] :: front) ++ [[]] := by rw [hsplit, hfront]; rfl
    rw [labels_append_nil hfront, labels_append_nil hsplit']
  · rw [labels_of_ne hlast, labels_of_ne, hsplit]
    rwa [hsplit, List.getLast?_cons_of_ne_nil (splitLabels_ne_nil cs)]

theorem labels_append_dot (hcs : cs ≠ []) (h : cs.getLast? ≠ some '.') :
    labels (cs ++ ['.']) = labels cs := by
  rw [labels_append_nil (splitLabels_append_dot cs []),
    labels_of_ne (getLast?_splitLabels_ne hcs h)]

/-- A full stop in front does not matter. -/
theorem endsInNumber_cons_dot (cs : List Char) : endsInNumber ('.' :: cs) = endsInNumber cs := by
  rw [endsInNumber, endsInNumber, labels_cons_dot]
  by_cases hnil : labels cs = []
  · rw [hnil]
    rfl
  · rw [List.getLast?_cons_of_ne_nil hnil]

/-- Neither does a single one behind. -/
theorem endsInNumber_append_dot (hcs : cs ≠ []) (h : cs.getLast? ≠ some '.') :
    endsInNumber (cs ++ ['.']) = endsInNumber cs := by
  rw [endsInNumber, endsInNumber, labels_append_dot hcs h]

/-- A name with two full stops behind is no address. -/
theorem endsInNumber_append_dots (cs : List Char) : endsInNumber (cs ++ ['.', '.']) = false := by
  have hsplit : splitLabels (cs ++ ['.', '.']) = (splitLabels cs ++ [[]]) ++ [[]] := by
    rw [splitLabels_append_dot, List.append_assoc]
    rfl
  rw [endsInNumber, labels_append_nil hsplit, List.getLast?_concat]
  rfl

theorem endsInNumber_dots (count : Nat) : endsInNumber (List.replicate count '.') = false := by
  match count with
  | 0 => rfl
  | 1 => rfl
  | count + 2 =>
    rw [List.replicate_add]
    exact endsInNumber_append_dots _

theorem parse_cons_dot (cs : List Char) : parse ('.' :: cs) = .error .ipv4 := by
  rw [parse, labels_cons_dot, List.mapM_cons]
  rfl

theorem parse_append_dot (hcs : cs ≠ []) (h : cs.getLast? ≠ some '.') :
    parse (cs ++ ['.']) = parse cs := by
  rw [parse, parse, labels_append_dot hcs h]

theorem endsInNumber_append_replicate (hcs : cs ≠ []) (h : cs.getLast? ≠ some '.') (count : Nat) :
    endsInNumber (cs ++ List.replicate count '.') = (decide (count ≤ 1) && endsInNumber cs) := by
  match count with
  | 0 => rw [List.replicate_zero, List.append_nil]; rfl
  | 1 => exact endsInNumber_append_dot hcs h
  | count + 2 =>
    have hdots : cs ++ List.replicate (count + 2) '.' =
        (cs ++ List.replicate count '.') ++ ['.', '.'] := by
      rw [List.replicate_add, List.append_assoc]
      rfl
    rw [hdots, endsInNumber_append_dots, decide_eq_false (by omega), Bool.false_and]

theorem parse_append_replicate (hcs : cs ≠ []) (h : cs.getLast? ≠ some '.') {count : Nat}
    (hcount : count ≤ 1) : parse (cs ++ List.replicate count '.') = parse cs := by
  match count with
  | 0 => rw [List.replicate_zero, List.append_nil]
  | 1 => exact parse_append_dot hcs h

/-! ## Texts of addresses -/

/-- Four bytes in decimal, with full stops between them. -/
def bytesText (a b c d : Nat) : List Char :=
  Nat.toDigits 10 a ++ '.' :: (Nat.toDigits 10 b ++ '.' :: (Nat.toDigits 10 c ++ '.' ::
    Nat.toDigits 10 d))

theorem toList_text (n : Nat) : (text n).toList =
    bytesText (n / 16777216 % 256) (n / 65536 % 256) (n / 256 % 256) (n % 256) := by
  simp only [text, bytesText, List.map_cons, List.map_nil, String.intercalate_cons_cons,
    String.intercalate_singleton, String.toList_append, Nat.toString_eq_ofList_toDigits,
    String.toList_ofList, List.append_assoc]
  rfl

theorem part?_toDigits : ∀ n < 256, part? (Nat.toDigits 10 n) = some n := by
  decide +kernel

theorem isDigit_of_mem_toDigits {x : Char} (h : x ∈ Nat.toDigits 10 n) : x.isDigit = true :=
  Nat.isDigit_of_mem_toDigits (by decide) (by decide) h

theorem splitLabels_toDigits (n : Nat) : splitLabels (Nat.toDigits 10 n) = [Nat.toDigits 10 n] := by
  have hnone : ∀ cs : List Char, (∀ x ∈ cs, x ≠ '.') → splitLabels cs = [cs] := by
    intro cs
    induction cs with
    | nil => exact fun _ => rfl
    | cons x cs ih =>
      intro h
      rw [List.forall_mem_cons] at h
      exact splitLabels_cons_of_ne h.1 (ih h.2)
  refine hnone _ ?_
  rintro x hx rfl
  exact absurd (isDigit_of_mem_toDigits hx) (by decide)

theorem labels_bytesText (a b c d : Nat) : labels (bytesText a b c d) =
    [Nat.toDigits 10 a, Nat.toDigits 10 b, Nat.toDigits 10 c, Nat.toDigits 10 d] := by
  have hsplit : splitLabels (bytesText a b c d) =
      [Nat.toDigits 10 a, Nat.toDigits 10 b, Nat.toDigits 10 c, Nat.toDigits 10 d] := by
    simp only [bytesText, splitLabels_append_dot, splitLabels_toDigits]
    rfl
  rw [labels_of_ne, hsplit]
  rw [hsplit]
  exact fun h => Nat.toDigits_ne_nil (Option.some.inj h)

theorem mem_bytesText {x : Char} (h : x ∈ bytesText a b c d) : x = '.' ∨ x.isDigit = true := by
  simp only [bytesText, List.mem_append, List.mem_cons] at h
  rcases h with h | rfl | h | rfl | h | rfl | h
  · exact .inr (isDigit_of_mem_toDigits h)
  · exact .inl rfl
  · exact .inr (isDigit_of_mem_toDigits h)
  · exact .inl rfl
  · exact .inr (isDigit_of_mem_toDigits h)
  · exact .inl rfl
  · exact .inr (isDigit_of_mem_toDigits h)

theorem bytesText_ne_nil : bytesText a b c d ≠ [] :=
  List.append_ne_nil_of_left_ne_nil Nat.toDigits_ne_nil _

theorem getLast?_bytesText_ne : (bytesText a b c d).getLast? ≠ some '.' := by
  have hsplit : bytesText a b c d = (Nat.toDigits 10 a ++ '.' :: (Nat.toDigits 10 b ++ '.' ::
      (Nat.toDigits 10 c ++ ['.']))) ++ Nat.toDigits 10 d := by
    simp [bytesText]
  rw [hsplit, List.getLast?_append_of_ne_nil _ Nat.toDigits_ne_nil]
  intro h
  exact absurd (isDigit_of_mem_toDigits (List.mem_of_mem_getLast? h)) (by decide)

/-- Four bytes are read as the address that they make. -/
theorem parse_bytesText (ha : a < 256) (hb : b < 256) (hc : c < 256) (hd : d < 256) :
    parse (bytesText a b c d) = .ok (((a * 256 + b) * 256 + c) * 256 + d) := by
  have hparts : [Nat.toDigits 10 a, Nat.toDigits 10 b, Nat.toDigits 10 c,
      Nat.toDigits 10 d].mapM part? = some [a, b, c, d] := by
    simp only [List.mapM_cons, List.mapM_nil, part?_toDigits a ha, part?_toDigits b hb,
      part?_toDigits c hc, part?_toDigits d hd]
    rfl
  have hfit : [a, b, c, d].length ≤ 4 ∧ ([a, b, c].all (· < 256)) = true ∧
      d < Nat.pow 256 (5 - [a, b, c, d].length) := by
    simp [ha, hb, hc, hd]
  rw [parse, labels_bytesText, hparts]
  refine (if_pos hfit).trans (congrArg Except.ok ?_)
  change (256 * (256 * (256 * 0 + a) + b) + c) * 256 + d = ((a * 256 + b) * 256 + c) * 256 + d
  ring

/-- **The text of an address is read** as the address of the same text. -/
theorem text_of_parse_text {m : Nat} (h : parse (text n).toList = .ok m) : text m = text n := by
  rw [toList_text, parse_bytesText (Nat.mod_lt _ (by decide)) (Nat.mod_lt _ (by decide))
    (Nat.mod_lt _ (by decide)) (Nat.mod_lt _ (by decide))] at h
  obtain rfl := Except.ok.inj h
  rw [← String.toList_inj, toList_text, toList_text]
  congr 1 <;> omega

end SessionReplay.Url.Ipv4
