import Mathlib.Algebra.Order.Field.Power
import Mathlib.Algebra.Order.Field.Rat

/-!
# What a numeral denotes

The texts of numbers as a language, apart from how they are read: an optional sign, digits with an
optional point, and an optional power of ten. A text of the language denotes a sign and a
magnitude, which is an exact rational number whatever the count of digits and the size of the power.
-/

namespace Calculator.Number

/-- Decimal digits, or nothing. -/
def AreDigits (text : List Char) : Prop := ∀ c ∈ text, c.isDigit = true

/-- An optional sign, and whether it is a minus sign. -/
inductive IsSign : List Char → Bool → Prop where
  /-- It may be missing. -/
  | absent : IsSign [] false
  /-- A plus sign changes nothing. -/
  | plus : IsSign ['+'] false
  /-- A minus sign. -/
  | minus : IsSign ['-'] true

/-- Digits with an optional point, and the number that they write. At least one digit stands before
or after the point. -/
inductive IsMantissa : List Char → ℚ → Prop where
  /-- Digits alone. -/
  | whole {digits : List Char} :
    digits ≠ [] → AreDigits digits → IsMantissa digits (Nat.ofDigitChars 10 digits 0)
  /-- Digits and a point, perhaps with digits after it. -/
  | point {digits fraction : List Char} :
    digits ≠ [] → AreDigits digits → AreDigits fraction →
      IsMantissa (digits ++ '.' :: fraction)
        (Nat.ofDigitChars 10 digits 0 + Nat.ofDigitChars 10 fraction 0 / 10 ^ fraction.length)
  /-- A point and digits after it. -/
  | fraction {fraction : List Char} :
    fraction ≠ [] → AreDigits fraction →
      IsMantissa ('.' :: fraction) (Nat.ofDigitChars 10 fraction 0 / 10 ^ fraction.length)

/-- An optional power of ten, and its exponent. -/
inductive IsPower : List Char → ℤ → Prop where
  /-- It may be missing. -/
  | absent : IsPower [] 0
  /-- Its mark, an optional sign and digits. -/
  | marked {mark : Char} {sign digits : List Char} {negative : Bool} :
    mark = 'e' ∨ mark = 'E' → IsSign sign negative → digits ≠ [] → AreDigits digits →
      IsPower (mark :: (sign ++ digits))
        (if negative then -(Nat.ofDigitChars 10 digits 0 : ℤ) else Nat.ofDigitChars 10 digits 0)

/-- A text denotes a sign and an exact magnitude. -/
inductive Denotes : List Char → Bool → ℚ → Prop where
  /-- The parts of a numeral stand one after another. -/
  | parts {sign mantissa power : List Char} {negative : Bool} {value : ℚ} {exponent : ℤ} :
    IsSign sign negative → IsMantissa mantissa value → IsPower power exponent →
      Denotes (sign ++ (mantissa ++ power)) negative (value * 10 ^ exponent)

/-- The characters that numerals are written with. -/
def IsNumeralChar (c : Char) : Prop := c.isDigit = true ∨ c ∈ ['+', '-', '.', 'e', 'E']

/-- The words for values that are not finite, in lower case. -/
def nonFiniteWords : List (List Char) :=
  [['i', 'n', 'f'], ['i', 'n', 'f', 'i', 'n', 'i', 't', 'y'], ['n', 'a', 'n']]

end Calculator.Number
