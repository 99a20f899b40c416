import SessionReplay.Url.Percent

/-!
# Form text

The names and values of a form are written with a plus sign for a space and with percent-escapes.

* `decode` — the text that is written, if its bytes are the bytes of a text.
-/

namespace SessionReplay.FormText

/-- Bytes with spaces for plus signs. -/
def spaced (bytes : List UInt8) : List UInt8 :=
  bytes.map fun b => if b = '+'.toUInt8 then ' '.toUInt8 else b

/-- The text that is written. -/
def decode (s : String) : Option String :=
  Text.ofBytes? (Url.decodeBytes (spaced (Text.bytes s)))

end SessionReplay.FormText
