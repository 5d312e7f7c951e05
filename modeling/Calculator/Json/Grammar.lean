import Calculator.Json.Skip

/-!
# The texts of JSON

Every value has many texts. A character of a string stands for itself where JSON allows it, and
may always be written as an escape by its number, with hex digits in either case; some have an
escape by a letter too (`CharForm`). Blanks may stand between any two tokens. `IsJson` is the
language of all values, of any nesting, with the strings in them taken as they stand: an escape
in such a string may also give half of a surrogate pair.
-/

namespace Calculator.Json

/-- Blanks of JSON, or nothing. -/
def IsBlanks (text : List Char) : Prop := ∀ c ∈ text, c ∈ [' ', '\t', '\n', '\r']

/-! ## Strings -/

/-- The letters of short escapes, each with the character that it stands for. -/
def shortEscapes : List (Char × Char) :=
  [('"', '"'), ('\\', '\\'), ('/', '/'), ('b', '\x08'), ('f', '\x0c'), ('n', '\n'), ('r', '\r'),
    ('t', '\t')]

/-- A hex digit, in either case, and its value. -/
def IsHexDigit (value : Nat) (c : Char) : Prop :=
  value < 16 ∧ (c = Nat.digitChar value ∨ c = (Nat.digitChar value).toUpper)

instance (value : Nat) (c : Char) : Decidable (IsHexDigit value c) :=
  inferInstanceAs
    (Decidable (value < 16 ∧ (c = Nat.digitChar value ∨ c = (Nat.digitChar value).toUpper)))

/-- Four hex digits and the number that they write. -/
inductive IsQuad : Nat → List Char → Prop where
  /-- The digits count from the left. -/
  | digits {first second third fourth : Nat} {c₁ c₂ c₃ c₄ : Char} :
    IsHexDigit first c₁ → IsHexDigit second c₂ → IsHexDigit third c₃ → IsHexDigit fourth c₄ →
      IsQuad (0x1000 * first + 0x100 * second + 0x10 * third + fourth) [c₁, c₂, c₃, c₄]

/-- A character that may stand for itself in a string. -/
def IsPlain (c : Char) : Prop := c ≠ '"' ∧ c ≠ '\\' ∧ 0x20 ≤ c.toNat

/-- What may stand for a character in a string. -/
inductive CharForm (c : Char) : List Char → Prop where
  /-- Itself. -/
  | raw : IsPlain c → CharForm c [c]
  /-- A short escape. -/
  | short {letter : Char} : (letter, c) ∈ shortEscapes → CharForm c ['\\', letter]
  /-- Its number, if four digits are enough. -/
  | number {digits : List Char} : IsQuad c.toNat digits → CharForm c ('\\' :: 'u' :: digits)
  /-- The numbers of two surrogates, if four digits are not enough. -/
  | pair {leading trailing : List Char} :
    0x10000 ≤ c.toNat → IsQuad (0xD800 + (c.toNat - 0x10000) / 0x400) leading →
      IsQuad (0xDC00 + (c.toNat - 0x10000) % 0x400) trailing →
        CharForm c ('\\' :: 'u' :: leading ++ '\\' :: 'u' :: trailing)

/-- What may stand for a text between its quotes. -/
inductive TextForm : List Char → List Char → Prop where
  /-- Nothing stands for the empty text. -/
  | nil : TextForm [] []
  /-- Each character has its own form. -/
  | cons {c : Char} {text form forms : List Char} :
    CharForm c form → TextForm text forms → TextForm (c :: text) (form ++ forms)

/-- The strings that have a text as their value. -/
inductive IsString (text : String) : List Char → Prop where
  /-- A form of the text between quotes. -/
  | quoted {content : List Char} :
    TextForm text.toList content → IsString text ('"' :: content ++ ['"'])

/-- The content of a string that is taken as it stands. -/
inductive IsContent : List Char → Prop where
  /-- It may be empty. -/
  | nil : IsContent []
  /-- A character that stands for itself. -/
  | raw {c : Char} {rest : List Char} : IsPlain c → IsContent rest → IsContent (c :: rest)
  /-- A short escape. -/
  | short {letter c : Char} {rest : List Char} :
    (letter, c) ∈ shortEscapes → IsContent rest → IsContent ('\\' :: letter :: rest)
  /-- Any number, that of a single surrogate included. -/
  | number {value : Nat} {digits rest : List Char} :
    IsQuad value digits → IsContent rest → IsContent ('\\' :: 'u' :: digits ++ rest)

/-! ## Numbers -/

/-- One digit or more. -/
def IsDigits (text : List Char) : Prop := text ≠ [] ∧ ∀ c ∈ text, c.isDigit = true

/-- The whole part of a number, with no leading zero. -/
inductive IsWhole : List Char → Prop where
  /-- A zero stands alone. -/
  | zero : IsWhole ['0']
  /-- Any other digits start with one that is no zero. -/
  | positive {first : Char} {rest : List Char} :
    first ≠ '0' → IsDigits (first :: rest) → IsWhole (first :: rest)

/-- The fraction of a number, if any. -/
inductive IsFraction : List Char → Prop where
  /-- There may be none. -/
  | none : IsFraction []
  /-- A point has digits after it. -/
  | point {digits : List Char} : IsDigits digits → IsFraction ('.' :: digits)

/-- The exponent of a number, if any. -/
inductive IsExponent : List Char → Prop where
  /-- There may be none. -/
  | none : IsExponent []
  /-- Digits with an optional sign after the mark. -/
  | mark {mark : Char} {sign digits : List Char} :
    mark ∈ ['e', 'E'] → sign ∈ [[], ['+'], ['-']] → IsDigits digits →
      IsExponent (mark :: sign ++ digits)

/-- Numbers. -/
inductive IsNumeral : List Char → Prop where
  /-- The parts of a number after an optional minus sign. -/
  | parts {minus whole fraction exponent : List Char} :
    minus ∈ [[], ['-']] → IsWhole whole → IsFraction fraction → IsExponent exponent →
      IsNumeral (minus ++ whole ++ fraction ++ exponent)

/-! ## Values -/

/-- The values that are written as words. -/
def words : List (List Char) :=
  [['n', 'u', 'l', 'l'], ['t', 'r', 'u', 'e'], ['f', 'a', 'l', 's', 'e']]

/-- The character that opens a frame. -/
def Frame.opening : Frame → Char
  | .list => '['
  | .object => '\x7b'

/-- What the grammar of values is made of. -/
inductive Part where
  /-- A value. -/
  | value
  /-- An item of a list or of an object. -/
  | item (frame : Frame)
  /-- One item or more, up to the end of their list or object. -/
  | items (frame : Frame)
  deriving DecidableEq, Repr

/-- The texts of each part. -/
inductive IsJson : Part → List Char → Prop where
  /-- Words are values. -/
  | word {letters : List Char} : letters ∈ words → IsJson .value letters
  /-- Numbers are values. -/
  | numeral {text : List Char} : IsNumeral text → IsJson .value text
  /-- Strings are values. -/
  | text {content : List Char} : IsContent content → IsJson .value ('"' :: content ++ ['"'])
  /-- A list or an object may have no items. -/
  | empty {frame : Frame} {blanks : List Char} :
    IsBlanks blanks → IsJson .value (frame.opening :: blanks ++ [frame.closing])
  /-- A list or an object holds items. -/
  | filled {frame : Frame} {blanks items : List Char} :
    IsBlanks blanks → IsJson (.items frame) items →
      IsJson .value (frame.opening :: blanks ++ items ++ [frame.closing])
  /-- An item of a list is a value. -/
  | element {text : List Char} : IsJson .value text → IsJson (.item .list) text
  /-- An item of an object is a key and a value. -/
  | member {key before after value : List Char} :
    IsContent key → IsBlanks before → IsBlanks after → IsJson .value value →
      IsJson (.item .object) ('"' :: key ++ '"' :: before ++ ':' :: after ++ value)
  /-- Blanks may follow the last item. -/
  | last {frame : Frame} {item blanks : List Char} :
    IsJson (.item frame) item → IsBlanks blanks → IsJson (.items frame) (item ++ blanks)
  /-- A comma follows any other item. -/
  | next {frame : Frame} {item before after items : List Char} :
    IsJson (.item frame) item → IsBlanks before → IsBlanks after → IsJson (.items frame) items →
      IsJson (.items frame) (item ++ before ++ ',' :: after ++ items)

end Calculator.Json
