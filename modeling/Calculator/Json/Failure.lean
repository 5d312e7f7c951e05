import Calculator.Number.Layout
import Calculator.Text.Bytes
import Calculator.Text.Shown

/-!
# Failures of reading JSON

A failure says what was wrong and how many bytes of the text were still unread when that was
noticed. Lines and columns follow from the text: lines count from one, and a column is the
number of bytes read since the last line feed. A failure noticed by looking at the next byte
counts this byte as read.
-/

namespace Calculator.Json

/-- A value that stands where another kind of value is due. -/
inductive Found where
  | null
  | boolean (value : Bool)
  | integer (value : Int)
  | float (value : Float)
  | text (value : List Char)
  | sequence
  | map

/-- The wording of a found value. -/
def Found.describe : Found → List Char
  | .null => "null".toList
  | .boolean true => "boolean `true`".toList
  | .boolean false => "boolean `false`".toList
  | .integer value => "integer `".toList ++ Number.Layout.integer value ++ ['\x60']
  | .float value =>
    "floating point `".toList ++ Number.Layout.document.chars value ++ ['\x60']
  | .text value => "string ".toList ++ Text.quoted value
  | .sequence => "sequence".toList
  | .map => "map".toList

/-- What is wrong with a text. -/
inductive Cause where
  /-- The text ends where a value is due. -/
  | endOfValue
  /-- The text ends inside a list. -/
  | endOfList
  /-- The text ends inside an object. -/
  | endOfObject
  /-- The text ends inside a string. -/
  | endOfText
  /-- No value starts here. -/
  | expectedValue
  /-- A word starts like a known one and is another. -/
  | expectedWord
  /-- No colon follows a key. -/
  | expectedColon
  /-- Neither a comma nor the end of the list follows an element. -/
  | expectedListEnd
  /-- Neither a comma nor the end of the object follows a member. -/
  | expectedObjectEnd
  /-- A key is not a string. -/
  | keyNotText
  /-- A comma is followed by the end of its list or object. -/
  | trailingComma
  /-- Something follows what should have been the end. -/
  | trailingCharacters
  /-- A number breaks off or has a leading zero. -/
  | invalidNumber
  /-- A number is too large. -/
  | numberOutOfRange
  /-- An escape is unknown. -/
  | invalidEscape
  /-- A surrogate has no partner. -/
  | loneSurrogate
  /-- The partner of a surrogate is missing. -/
  | missingSurrogate
  /-- A string contains a control character. -/
  | controlCharacter
  /-- Another kind of value is due. -/
  | invalidType (found : Found) (expected : String)
  /-- A list stands for an object and has too few elements. -/
  | invalidLength (length : Nat) (expected : String)
  /-- A field is missing. -/
  | missingField (name : String)
  /-- A field is given twice. -/
  | duplicateField (name : String)

/-- The wording of each cause. -/
def Cause.message : Cause → List Char
  | .endOfValue => "EOF while parsing a value".toList
  | .endOfList => "EOF while parsing a list".toList
  | .endOfObject => "EOF while parsing an object".toList
  | .endOfText => "EOF while parsing a string".toList
  | .expectedValue => "expected value".toList
  | .expectedWord => "expected ident".toList
  | .expectedColon => "expected `:`".toList
  | .expectedListEnd => "expected `,` or `]`".toList
  | .expectedObjectEnd => "expected `,` or `\x7d`".toList
  | .keyNotText => "key must be a string".toList
  | .trailingComma => "trailing comma".toList
  | .trailingCharacters => "trailing characters".toList
  | .invalidNumber => "invalid number".toList
  | .numberOutOfRange => "number out of range".toList
  | .invalidEscape => "invalid escape".toList
  | .loneSurrogate => "lone leading surrogate in hex escape".toList
  | .missingSurrogate => "unexpected end of hex escape".toList
  | .controlCharacter =>
    "control character (\\u0000-\\u001F) found while parsing a string".toList
  | .invalidType found expected =>
    "invalid type: ".toList ++ found.describe ++ ", expected ".toList ++ expected.toList
  | .invalidLength length expected =>
    "invalid length ".toList ++ Nat.toDigits 10 length ++ ", expected ".toList ++ expected.toList
  | .missingField name => "missing field `".toList ++ name.toList ++ ['\x60']
  | .duplicateField name => "duplicate field `".toList ++ name.toList ++ ['\x60']

/-- A failure inside a text. -/
structure Failure where
  /-- What is wrong. -/
  cause : Cause
  /-- The bytes of the text that come after the place of the failure. -/
  unread : Nat

namespace Failure

/-- A failure with some text left to read. -/
def before (cause : Cause) (rest : List Char) : Failure := ⟨cause, Text.byteCount rest⟩

/-- A failure noticed by the next byte of a text, which counts as read. -/
def within (cause : Cause) (rest : List Char) : Failure := ⟨cause, Text.byteCount rest - 1⟩

end Failure

/-- A place in a text. -/
structure Position where
  /-- One more than the line feeds before the place. -/
  line : Nat
  /-- The bytes since the last of them. -/
  column : Nat
  deriving DecidableEq, Repr

namespace Position

/-- Where a text starts. -/
def start : Position := ⟨1, 0⟩

/-- The place a number of bytes further on in a text; it may lie inside a character. -/
def advance (position : Position) : List Char → Nat → Position
  | [], _ => position
  | c :: rest, offset =>
    if offset = 0 then position
    else if c = '\n' then advance ⟨position.line + 1, 0⟩ rest (offset - 1)
    else if offset < c.utf8Size then ⟨position.line, position.column + offset⟩
    else advance ⟨position.line, position.column + c.utf8Size⟩ rest (offset - c.utf8Size)

/-- The place in a text that a number of bytes come after. -/
def ofUnread (text : List Char) (unread : Nat) : Position :=
  start.advance text (Text.byteCount text - unread)

end Position

/-- A failure with its place. -/
structure LocatedFailure where
  /-- What is wrong. -/
  cause : Cause
  /-- Where it was noticed. -/
  position : Position

namespace LocatedFailure

/-- A failure inside a text, located in this text. -/
def ofFailure (text : List Char) (failure : Failure) : LocatedFailure :=
  ⟨failure.cause, Position.ofUnread text failure.unread⟩

/-- The wording of a failure and its place. -/
def message (failure : LocatedFailure) : String :=
  String.ofList (failure.cause.message ++ " at line ".toList ++
    Nat.toDigits 10 failure.position.line ++ " column ".toList ++
    Nat.toDigits 10 failure.position.column)

end LocatedFailure

end Calculator.Json
