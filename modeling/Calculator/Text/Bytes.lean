/-!
# Text as bytes

Text is stored and sent as UTF-8. `encode` writes it, `decode?` reads exactly what `encode`
writes, and `decodeLossy` shows any bytes: every longest run that starts a character without
completing it becomes one replacement character.
-/

namespace Calculator.Text

/-- The UTF-8 bytes of a text. -/
def encode (text : String) : List UInt8 := text.toList.flatMap String.utf8EncodeChar

/-- The text with the given UTF-8 bytes, if they are valid. -/
def decode? (bytes : List UInt8) : Option String := String.fromUTF8? bytes.toByteArray

/-- The bytes of two texts one after the other. -/
theorem encode_append (first second : String) :
    encode (first ++ second) = encode first ++ encode second := by
  simp [encode]

/-- How many bytes the characters of a text take. -/
def byteCount (text : List Char) : Nat := (text.flatMap String.utf8EncodeChar).length

/-- The ranges that the bytes after a leading byte must lie in, for a character to be
complete. A byte that leads no longer character has none. -/
def continuations (lead : UInt8) : List (UInt8 × UInt8) :=
  if lead < 0xC2 then []
  else if lead < 0xE0 then [(0x80, 0xBF)]
  else if lead = 0xE0 then [(0xA0, 0xBF), (0x80, 0xBF)]
  else if lead = 0xED then [(0x80, 0x9F), (0x80, 0xBF)]
  else if lead < 0xF0 then [(0x80, 0xBF), (0x80, 0xBF)]
  else if lead = 0xF0 then [(0x90, 0xBF), (0x80, 0xBF), (0x80, 0xBF)]
  else if lead < 0xF4 then [(0x80, 0xBF), (0x80, 0xBF), (0x80, 0xBF)]
  else if lead = 0xF4 then [(0x80, 0x8F), (0x80, 0xBF), (0x80, 0xBF)]
  else []

/-- How many of the bytes after a leading byte belong to its character. -/
def continuationCount (lead : UInt8) (rest : List UInt8) : Nat :=
  ((rest.zip (continuations lead)).takeWhile fun (byte, range) =>
    range.1 ≤ byte && byte ≤ range.2).length

/-- The text of any bytes, with replacement characters where they are not valid. -/
def decodeLossy (bytes : List UInt8) : List Char :=
  match bytes with
  | [] => []
  | lead :: rest =>
    let count := continuationCount lead rest
    let shown := ((decode? (lead :: rest.take count)).map String.toList).getD ['\uFFFD']
    shown ++ decodeLossy (rest.drop count)
termination_by bytes.length
decreasing_by
  simp only [List.length_drop, List.length_cons]
  omega

end Calculator.Text
