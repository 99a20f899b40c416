/-!
# Texts as bytes

* `bytes` — the UTF-8 bytes of a text;
* `ofBytes?` — the text with given UTF-8 bytes, if there is one;
* **`ofBytes?_eq_some_iff`**: reading accepts exactly the bytes of a text.
-/

namespace SessionReplay.Text

/-- The UTF-8 bytes of a text. -/
def bytes (s : String) : List UInt8 :=
  s.toByteArray.data.toList

/-- The text whose UTF-8 bytes these are, if they are well formed. -/
def ofBytes? (bs : List UInt8) : Option String :=
  String.fromUTF8? ⟨bs.toArray⟩

/-- The bytes of a text give the text back. -/
theorem ofBytes?_bytes (s : String) : ofBytes? (bytes s) = some s := by
  unfold ofBytes? bytes String.fromUTF8?
  rw [Array.toArray_toList, dif_pos s.isValidUTF8]
  rfl

/-- Reading accepts exactly the bytes of a text. -/
theorem ofBytes?_eq_some_iff {bs : List UInt8} {s : String} :
    ofBytes? bs = some s ↔ bytes s = bs := by
  constructor
  · intro h
    unfold ofBytes? String.fromUTF8? at h
    split at h
    · cases h
      simp [bytes, String.fromUTF8]
    · cases h
  · rintro rfl
    exact ofBytes?_bytes s

end SessionReplay.Text
