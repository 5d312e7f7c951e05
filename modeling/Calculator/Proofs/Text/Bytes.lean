import Calculator.Text.Bytes

/-!
# Encoded text decodes to itself

Decoding accepts exactly the bytes that encoding gives.
-/

namespace Calculator.Text

/-- The bytes of a text are those that core keeps it in. -/
theorem toByteArray_encode (text : String) : (encode text).toByteArray = text.toByteArray := by
  rw [encode, ← String.utf8Encode_toList]
  rfl

/-- What is encoded is decoded. -/
theorem decode?_encode (text : String) : decode? (encode text) = some text := by
  rw [decode?, toByteArray_encode, String.fromUTF8?, dif_pos text.isValidUTF8]
  rfl

/-- Only what is encoded is decoded. -/
theorem encode_of_decode? {bytes : List UInt8} {text : String} (h : decode? bytes = some text) :
    encode text = bytes := by
  rw [decode?, String.fromUTF8?] at h
  split at h
  · have same : (encode text).toByteArray = bytes.toByteArray := by
      rw [toByteArray_encode, ← Option.some.inj h]
      rfl
    have bytesSame := congrArg (·.data.toList) same
    simpa using bytesSame
  · cases h

end Calculator.Text
