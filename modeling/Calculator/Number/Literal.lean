import Calculator.Number.Decimal

/-!
# Number literals

A literal is an optional sign, digits with an optional point among or beside them, and an
optional exponent: `e` or `E`, an optional sign and digits. All of it is ASCII. Its value is
the nearest 64-bit number, with the sign kept on a zero; a literal whose value would be
infinite has none.
-/

namespace Calculator.Number

/-- A literal as read: a sign and a decimal magnitude. -/
structure Literal where
  /-- Whether it starts with a minus sign. -/
  negative : Bool
  /-- The digits and the power of ten that they are multiplied by. -/
  magnitude : Decimal
  deriving DecidableEq, Repr

/-- Whether a text starts with a minus sign, and the text after an optional sign. -/
def splitSign : List Char → Bool × List Char
  | '-' :: rest => (true, rest)
  | '+' :: rest => (false, rest)
  | rest => (false, rest)

/-- The number written by decimal digits. -/
def digitsValue (digits : List Char) : Nat := Nat.ofDigitChars 10 digits 0

/-- Digits are read in base ten. -/
theorem digitsValue_eq (digits : List Char) : digitsValue digits = Nat.ofDigitChars 10 digits 0 :=
  rfl

/-- An optional sign and at least one digit, with nothing after them. -/
def exponentValue? (text : List Char) : Option Int :=
  let (negative, digits) := splitSign text
  if digits ≠ [] ∧ digits.all Char.isDigit then
    some (if negative then -(digitsValue digits : Int) else digitsValue digits)
  else none

/-- The exponent at the end of a literal: nothing, or its mark and value. -/
def exponentPart? : List Char → Option Int
  | [] => some 0
  | mark :: rest => if mark = 'e' ∨ mark = 'E' then exponentValue? rest else none

/-- The digits after a point, and the text after them. -/
def fractionPart : List Char → List Char × List Char
  | '.' :: rest => (rest.takeWhile Char.isDigit, rest.dropWhile Char.isDigit)
  | rest => ([], rest)

namespace Literal

/-- Reads a whole text as a literal. The digits before and after the point make up one
significand, each digit after it taking one power of ten back. -/
def ofChars? (text : List Char) : Option Literal :=
  let (negative, body) := splitSign text
  let whole := body.takeWhile Char.isDigit
  let (fraction, rest) := fractionPart (body.dropWhile Char.isDigit)
  if whole = [] ∧ fraction = [] then none
  else
    (exponentPart? rest).map fun exponent =>
      ⟨negative, ⟨digitsValue (whole ++ fraction), exponent - fraction.length⟩⟩

/-- The nearest finite number, if the literal does not overflow. -/
def value? (literal : Literal) : Option Float :=
  let code := literal.magnitude.code
  if code < infinityCode then some (ofCode literal.negative code) else none

end Literal

end Calculator.Number
