import SessionReplay.Shape

/-!
# Faults of a document

* `Fault` — why bytes are not a document of the wanted shape;
* `Fault.message` — the wording of a fault.
-/

namespace SessionReplay.Json

/-- Why bytes are not a document of the wanted shape. -/
inductive Fault where
  -- The bytes end within a value, a text, a list or an object.
  | endInValue
  | endInText
  | endInList
  | endInObject
  -- The bytes are not well formed.
  | noValue
  | noWord
  | noColon
  | noCommaInList
  | noCommaInObject
  | trailingComma
  | trailingBytes
  | keyNotText
  | number
  | numberRange
  | escape
  | codePoint
  | loneSurrogate
  | surrogateEnd
  | controlCharacter
  -- The bytes hold other data than wanted.
  | shape (found : Found) (wanted : Wanted)
  | integerRange (value : Int) (wanted : Wanted)
  | tooShort (length : Nat) (record : String) (fields : Nat)
  | missing (key : String)
  | duplicate (key : String)

/-! ## Wording -/

/-- Numbers in messages about documents: small and great ones have an exponent, and a half goes to
the even neighbour. -/
def numbers : Decimal.Notation := ⟨-5, 15, .even, "inf", "NaN"⟩

/-- The wording of a fault. -/
def Fault.message : Fault → String
  | .endInValue => "EOF while parsing a value"
  | .endInText => "EOF while parsing a string"
  | .endInList => "EOF while parsing a list"
  | .endInObject => "EOF while parsing an object"
  | .noValue => "expected value"
  | .noWord => "expected ident"
  | .noColon => "expected `:`"
  | .noCommaInList => "expected `,` or `]`"
  | .noCommaInObject => "expected `,` or `\x7d`"
  | .trailingComma => "trailing comma"
  | .trailingBytes => "trailing characters"
  | .keyNotText => "key must be a string"
  | .number => "invalid number"
  | .numberRange => "number out of range"
  | .escape => "invalid escape"
  | .codePoint => "invalid unicode code point"
  | .loneSurrogate => "lone leading surrogate in hex escape"
  | .surrogateEnd => "unexpected end of hex escape"
  | .controlCharacter => "control character (\\u0000-\\u001F) found while parsing a string"
  | .shape found wanted => mismatch numbers found wanted
  | .integerRange value wanted =>
    "invalid value: integer `" ++ toString value ++ "`, expected " ++ wanted.message
  | .tooShort length record fields =>
    "invalid length " ++ toString length ++ ", expected struct " ++ record ++ " with " ++
      toString fields ++ (if fields = 1 then " element" else " elements")
  | .missing key => missingField key
  | .duplicate key => "duplicate field `" ++ key ++ "`"

end SessionReplay.Json
