import SessionReplay.Proofs.Body.Form
import SessionReplay.Proofs.Url.Percent

/-!
# Spellings of form text

Each character of a form may be written as it is or as the escapes of its bytes, with two
exceptions; a space may also be written as a plus sign.

* `Escapes`, `WritesChar`, `Writes` — how a byte, a character and a text are written;
* `serialize`, `encodeComponent` — two spellings that programs make: the one of forms, and the one
  of a component of an address;
* `readChars_of_writesChar`: what is written for a character is read as its bytes, whatever follows;
* **`decode_spellings`**: every spelling is read back, and bytes of no text are not.
-/

namespace SessionReplay.FormText

open Capture (NamedValue PostedBody)

variable {s written : String} {c : Char} {n : Nat} {b : UInt8} {bs : List UInt8}
  {cs piece rest : List Char}

/-! ## Spellings -/

/-- A hexadecimal digit, in either letter case. -/
def WritesDigit (n : Nat) (c : Char) : Prop :=
  n < 16 ∧ (c = Nat.digitChar n ∨ c = (Nat.digitChar n).toUpper)

instance (n : Nat) (c : Char) : Decidable (WritesDigit n c) :=
  inferInstanceAs (Decidable (n < 16 ∧ (c = Nat.digitChar n ∨ c = (Nat.digitChar n).toUpper)))

/-- The escape of a byte. -/
def Escapes (b : UInt8) (piece : List Char) : Prop :=
  ∃ high low, WritesDigit (b.toNat / 16) high ∧ WritesDigit (b.toNat % 16) low ∧
    piece = ['%', high, low]

/-- Bytes all of which are escaped. -/
def EscapesAll (bs : List UInt8) (cs : List Char) : Prop :=
  ∃ pieces, List.Forall₂ Escapes bs pieces ∧ cs = pieces.flatten

/-- A character stands for itself unless it has another meaning in a form; a space may be a plus
sign; and every character may be the escapes of its bytes. -/
inductive WritesChar (c : Char) : List Char → Prop
  | literal : c ≠ '%' → c ≠ '+' → WritesChar c [c]
  | plus : c = ' ' → WritesChar c ['+']
  | escaped {cs : List Char} : EscapesAll (String.utf8EncodeChar c) cs → WritesChar c cs

/-- A text is written character by character, each in any of these ways. -/
def Writes (s written : String) : Prop :=
  ∃ pieces, List.Forall₂ WritesChar s.toList pieces ∧ written.toList = pieces.flatten

/-- A field of a form whose name and value are written. -/
structure WritesField (field : String × String) (param : NamedValue) : Prop where
  name : Writes field.1 param.name
  value : Writes field.2 param.value

/-! ## Two writers -/

/-- A character as it is if it may stay, and as the escapes of its bytes if not. -/
def escapeUnless (stays : Char → Bool) (c : Char) : List Char :=
  if stays c then [c] else (String.utf8EncodeChar c).flatMap Url.escapeByte

/-- The letters and digits and the signs that forms leave as they are. -/
def staysInForm (c : Char) : Bool :=
  c.isAlphanum || ['*', '-', '.', '_'].contains c

/-- The letters and digits and the signs that a component of an address leaves as they are. -/
def staysInComponent (c : Char) : Bool :=
  c.isAlphanum || ['-', '_', '.', '!', '~', '*', '\'', '(', ')'].contains c

/-- A text as browsers write it in a form. -/
def serialize (s : String) : String :=
  String.ofList (s.toList.flatMap fun c => if c = ' ' then ['+'] else escapeUnless staysInForm c)

/-- A text as scripts write it in a component of an address. -/
def encodeComponent (s : String) : String :=
  String.ofList (s.toList.flatMap (escapeUnless staysInComponent))

theorem escapes_escapeByte (b : UInt8) : Escapes b (Url.escapeByte b) := by
  have hdigit : ∀ n < 16, Url.hexDigit n = (Nat.digitChar n).toUpper := by decide
  have hlt := b.toNat_lt
  exact ⟨_, _, ⟨by omega, .inr (hdigit _ (by omega))⟩, ⟨by omega, .inr (hdigit _ (by omega))⟩, rfl⟩

theorem writesChar_escapeUnless {stays : Char → Bool} (hpercent : stays '%' = false)
    (hplus : stays '+' = false) (c : Char) : WritesChar c (escapeUnless stays c) := by
  unfold escapeUnless
  split_ifs with hstays
  · refine .literal ?_ ?_
    · rintro rfl
      exact Bool.false_ne_true (hpercent.symm.trans hstays)
    · rintro rfl
      exact Bool.false_ne_true (hplus.symm.trans hstays)
  · refine .escaped ⟨_, ?_, List.flatMap_def⟩
    rw [List.forall₂_map_right_iff, List.forall₂_same]
    exact fun b _ => escapes_escapeByte b

theorem writes_flatMap {f : Char → List Char} (h : ∀ c, WritesChar c (f c)) (s : String) :
    Writes s (String.ofList (s.toList.flatMap f)) := by
  refine ⟨s.toList.map f, ?_, ?_⟩
  · rw [List.forall₂_map_right_iff, List.forall₂_same]
    exact fun c _ => h c
  · rw [String.toList_ofList, List.flatMap_def]

theorem writes_serialize (s : String) : Writes s (serialize s) := by
  refine writes_flatMap (fun c => ?_) s
  split_ifs with hspace
  · exact .plus hspace
  · exact writesChar_escapeUnless (by decide) (by decide) c

theorem writes_encodeComponent (s : String) : Writes s (encodeComponent s) :=
  writes_flatMap (writesChar_escapeUnless (by decide) (by decide)) s

/-! ## Reading -/

/-- The bytes that characters are read as. -/
def readChars (cs : List Char) : List UInt8 :=
  Url.decodeBytes (spaced (cs.flatMap String.utf8EncodeChar))

theorem decode_eq (s : String) : decode s = Text.ofBytes? (readChars s.toList) := by
  rw [decode, Text.bytes_eq_flatMap, readChars]

theorem spaced_append (xs ys : List UInt8) : spaced (xs ++ ys) = spaced xs ++ spaced ys :=
  List.map_append

theorem spaced_of_ne (h : ∀ b ∈ bs, b ≠ '+'.toUInt8) : spaced bs = bs := by
  rw [spaced]
  exact (List.map_congr_left fun b hb => if_neg (h b hb)).trans (List.map_id bs)

/-- A character without a meaning of its own is read as its bytes. -/
theorem readChars_cons_of_ne (hpercent : c ≠ '%') (hplus : c ≠ '+') (rest : List Char) :
    readChars (c :: rest) = String.utf8EncodeChar c ++ readChars rest := by
  have hno_plus : ∀ b ∈ String.utf8EncodeChar c, b ≠ '+'.toUInt8 :=
    fun b => Text.ne_of_mem_utf8EncodeChar (by decide) hplus
  have hno_percent : ∀ b ∈ String.utf8EncodeChar c, b ≠ '%'.toUInt8 :=
    fun b => Text.ne_of_mem_utf8EncodeChar (by decide) hpercent
  rw [readChars, List.flatMap_cons, spaced_append, spaced_of_ne hno_plus,
    Url.decodeBytes_append_of_ne hno_percent, readChars]

/-- A plus sign is read as a space. -/
theorem readChars_cons_plus (rest : List Char) :
    readChars ('+' :: rest) = String.utf8EncodeChar ' ' ++ readChars rest := by
  have hspace : spaced (String.utf8EncodeChar '+') = String.utf8EncodeChar ' ' := by decide
  have hno_percent : ∀ b ∈ String.utf8EncodeChar ' ', b ≠ '%'.toUInt8 :=
    fun b => Text.ne_of_mem_utf8EncodeChar (by decide) (by decide)
  rw [readChars, List.flatMap_cons, spaced_append, hspace,
    Url.decodeBytes_append_of_ne hno_percent, readChars]

theorem spaced_digit (h : WritesDigit n c) :
    spaced (String.utf8EncodeChar c) = [c.toUInt8] ∧ Url.hexValue? c.toUInt8 = some n := by
  have hdigits : ∀ n < 16,
      (spaced (String.utf8EncodeChar (Nat.digitChar n)) = [(Nat.digitChar n).toUInt8] ∧
        Url.hexValue? (Nat.digitChar n).toUInt8 = some n) ∧
      (spaced (String.utf8EncodeChar (Nat.digitChar n).toUpper) =
        [(Nat.digitChar n).toUpper.toUInt8] ∧
          Url.hexValue? (Nat.digitChar n).toUpper.toUInt8 = some n) := by
    decide
  obtain ⟨hn, rfl | rfl⟩ := h
  · exact (hdigits n hn).1
  · exact (hdigits n hn).2

/-- **An escape is read as its byte**, whatever follows. -/
theorem readChars_escape (h : Escapes b piece) (rest : List Char) :
    readChars (piece ++ rest) = b :: readChars rest := by
  obtain ⟨high, low, hhigh, hlow, rfl⟩ := h
  obtain ⟨hhigh, hhighValue⟩ := spaced_digit hhigh
  obtain ⟨hlow, hlowValue⟩ := spaced_digit hlow
  have hsign : spaced (String.utf8EncodeChar '%') = ['%'.toUInt8] := by decide
  have hbyte : Url.escapedByte? '%'.toUInt8 high.toUInt8 low.toUInt8 = some b := by
    rw [Url.escapedByte?, if_pos rfl, hhighValue, hlowValue]
    dsimp only
    rw [Nat.div_add_mod, UInt8.ofNat_toNat]
  change readChars ('%' :: high :: low :: rest) = _
  rw [readChars, List.flatMap_cons, List.flatMap_cons, List.flatMap_cons, spaced_append,
    spaced_append, spaced_append, hsign, hhigh, hlow]
  change Url.decodeBytes ('%'.toUInt8 :: high.toUInt8 :: low.toUInt8 :: _) = _
  rw [Url.decodeBytes, hbyte]
  rfl

/-- Escapes are read as their bytes, one after the other and none of them twice. -/
theorem readChars_escapes (h : EscapesAll bs cs) (rest : List Char) :
    readChars (cs ++ rest) = bs ++ readChars rest := by
  obtain ⟨pieces, hpieces, rfl⟩ := h
  induction hpieces with
  | nil => rfl
  | cons hpiece _ ih =>
    rw [List.flatten_cons, List.append_assoc, readChars_escape hpiece, ih, List.cons_append]

/-- **What is written for a character** is read as its bytes, whatever follows. -/
theorem readChars_of_writesChar (h : WritesChar c piece) (rest : List Char) :
    readChars (piece ++ rest) = String.utf8EncodeChar c ++ readChars rest := by
  cases h with
  | literal hpercent hplus => exact readChars_cons_of_ne hpercent hplus rest
  | plus hspace =>
    rw [hspace]
    exact readChars_cons_plus rest
  | escaped hescapes => exact readChars_escapes hescapes rest

theorem readChars_flatten {pieces : List (List Char)} (h : List.Forall₂ WritesChar cs pieces) :
    readChars pieces.flatten = cs.flatMap String.utf8EncodeChar := by
  induction h with
  | nil => rfl
  | cons hpiece _ ih =>
    rw [List.flatten_cons, readChars_of_writesChar hpiece, ih, List.flatMap_cons]

theorem decode_eq_of_writes (h : Writes s written) : decode written = some s := by
  obtain ⟨pieces, hpieces, hwritten⟩ := h
  rw [decode_eq, hwritten, readChars_flatten hpieces, ← Text.bytes_eq_flatMap, Text.ofBytes?_bytes]

theorem decode_eq_of_escapes (h : EscapesAll bs written.toList) :
    decode written = Text.ofBytes? bs := by
  have hread := readChars_escapes h []
  rw [List.append_nil] at hread
  rw [decode_eq, hread]
  exact congrArg Text.ofBytes? (List.append_nil bs)

/-- **Every spelling is read back**, that of forms and that of components among them; escapes of
bytes that are those of no text are refused. So a form that is written in any of these ways from
fields whose names differ is sent as these fields. -/
theorem decode_spellings :
    (∀ s written, Writes s written → decode written = some s) ∧
    (∀ s, decode (serialize s) = some s ∧ decode (encodeComponent s) = some s) ∧
    (∀ bs written, (∀ s, Text.bytes s ≠ bs) → EscapesAll bs written.toList →
      decode written = none) ∧
    (∀ request post fields, Body.PostsForm request post →
      List.Forall₂ WritesField fields post.params → (fields.map Prod.fst).Nodup →
        Body.ofRequest request = .form fields) := by
  refine ⟨fun s written => decode_eq_of_writes, fun s => ⟨?_, ?_⟩, ?_, ?_⟩
  · exact decode_eq_of_writes (writes_serialize s)
  · exact decode_eq_of_writes (writes_encodeComponent s)
  · intro bs written hnone hescapes
    rw [decode_eq_of_escapes hescapes, Option.eq_none_iff_forall_ne_some]
    exact fun s hs => hnone s (Text.ofBytes?_eq_some_iff.mp hs)
  · intro request post fields hposts hwritten hnodup
    have hdecodes : List.Forall₂ Body.Decodes post.params fields :=
      hwritten.flip.imp fun _ _ h => ⟨decode_eq_of_writes h.name, decode_eq_of_writes h.value⟩
    exact hposts.ofRequest_of_ok (Body.formFields_eq_ok_iff_rebuilds.mpr ⟨hdecodes, hnodup⟩)

/-- A form whose only field is written with escapes in both letter cases and a plus sign. -/
def spelledForm : PostedBody :=
  ⟨formMime, none, .plain, [⟨"%71", "%2B+%c3%A9"⟩]⟩

theorem decode_spellings_spelledForm :
    Writes "+ é" "%2B+%c3%A9" ∧ decode "%2B+%c3%A9" = some "+ é" ∧
    (∀ s, Text.bytes s ≠ [0xFC]) ∧ EscapesAll [0xFC] "%fC".toList ∧ decode "%fC" = none ∧
    Body.PostsForm (postRequest spelledForm) spelledForm ∧
    List.Forall₂ WritesField [("q", "+ é")] spelledForm.params ∧
    Body.ofRequest (postRequest spelledForm) = .form [("q", "+ é")] := by
  have hescape (b : UInt8) (high low : Char) (hhigh : WritesDigit (b.toNat / 16) high)
      (hlow : WritesDigit (b.toNat % 16) low) : Escapes b ['%', high, low] :=
    ⟨high, low, hhigh, hlow, rfl⟩
  have hletter : EscapesAll (String.utf8EncodeChar 'q') ['%', '7', '1'] :=
    ⟨_, .cons (hescape 0x71 '7' '1' (by decide) (by decide)) .nil, rfl⟩
  have hplus : EscapesAll (String.utf8EncodeChar '+') ['%', '2', 'B'] :=
    ⟨_, .cons (hescape 0x2B '2' 'B' (by decide) (by decide)) .nil, rfl⟩
  have haccent : EscapesAll (String.utf8EncodeChar 'é') ['%', 'c', '3', '%', 'A', '9'] :=
    ⟨_, .cons (hescape 0xC3 'c' '3' (by decide) (by decide))
      (.cons (hescape 0xA9 'A' '9' (by decide) (by decide)) .nil), rfl⟩
  have hbyte : EscapesAll [0xFC] "%fC".toList :=
    ⟨_, .cons (hescape 0xFC 'f' 'C' (by decide) (by decide)) .nil, rfl⟩
  have hnone : ∀ s, Text.bytes s ≠ [0xFC] := by
    intro s hs
    have htext := Text.ofBytes?_eq_some_iff.mpr hs
    revert htext
    rw [show Text.ofBytes? [0xFC] = none by decide +kernel]
    exact nofun
  have hname : Writes "q" "%71" := ⟨_, .cons (.escaped hletter) .nil, rfl⟩
  have hvalue : Writes "+ é" "%2B+%c3%A9" :=
    ⟨_, .cons (.escaped hplus) (.cons (.plus rfl) (.cons (.escaped haccent) .nil)), rfl⟩
  have hposts : Body.PostsForm (postRequest spelledForm) spelledForm :=
    ⟨by decide +kernel, rfl, by decide +kernel, nofun⟩
  have hfields : List.Forall₂ WritesField [("q", "+ é")] spelledForm.params :=
    .cons ⟨hname, hvalue⟩ .nil
  obtain ⟨hread, -, hrefused, hform⟩ := decode_spellings
  exact ⟨hvalue, hread _ _ hvalue, hnone, hbyte, hrefused _ _ hnone hbyte, hposts, hfields,
    hform _ _ _ hposts hfields (by decide)⟩

end SessionReplay.FormText
