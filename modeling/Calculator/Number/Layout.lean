import Calculator.Number.Shortest

/-!
# Written numbers

A layout says how the digits of a number are set: for which values the point is put among
them and for which an exponent is written, whether a whole number keeps a zero after its
point, whether an exponent that is not negative has a sign, and which digits are taken where
two choices are equally near. The digits are always the fewest that read back, so under every
layout different finite numbers have different texts.

The program uses three layouts: `Layout.result` for the results it prints and stores,
`Layout.plain` for its log, and `Layout.document` for numbers found where a history file
should hold something else.
-/

namespace Calculator.Number

/-- How digits are set. -/
structure Layout where
  /-- The least and the greatest position of the point, in digits from the first one, at
  which no exponent is written; without bounds an exponent is never written. -/
  bounds : Option (Int × Int)
  /-- Whether a whole number written without an exponent ends in `.0`. -/
  keepsPoint : Bool
  /-- Whether an exponent that is not negative starts with a plus sign. -/
  signsExponent : Bool
  /-- Which of two decimals is written that are equally near to a number. -/
  tie : Tie
  deriving DecidableEq, Repr

namespace Layout

/-- Results are positional from one ten-thousandth up to, but not including, ten to the
sixteenth, and always have a decimal. -/
def result : Layout where
  bounds := some (-3, 16)
  keepsPoint := true
  signsExponent := false
  tie := .up

/-- Logged values are positional at any size, and whole ones have no point. -/
def plain : Layout where
  bounds := none
  keepsPoint := false
  signsExponent := false
  tie := .up

/-- Numbers in a history file are positional from one hundred-thousandth up to, but not
including, ten to the sixteenth, and then have a decimal; exponents always have their sign. -/
def document : Layout where
  bounds := some (-4, 16)
  keepsPoint := true
  signsExponent := true
  tie := .even

/-- Whether the point is put among the digits when it stands at a position. -/
def isPositional (layout : Layout) (position : Int) : Bool :=
  match layout.bounds with
  | none => true
  | some (least, greatest) => least ≤ position && position ≤ greatest

/-- Digits with the point put at a position, zeros filling what is missing on either side. -/
def positional (layout : Layout) (digits : List Char) (position : Int) : List Char :=
  if position ≤ 0 then '0' :: '.' :: List.replicate (-position).toNat '0' ++ digits
  else if (digits.length : Int) ≤ position then
    digits ++ List.replicate (position.toNat - digits.length) '0' ++
      (if layout.keepsPoint then ['.', '0'] else [])
  else digits.take position.toNat ++ '.' :: digits.drop position.toNat

/-- The digits of an integer after a minus sign if it is negative. -/
def integer (value : Int) : List Char :=
  if value < 0 then '-' :: Nat.toDigits 10 value.natAbs else Nat.toDigits 10 value.natAbs

/-- The power of ten after its mark. -/
def exponent (layout : Layout) (power : Int) : List Char :=
  if layout.signsExponent ∧ 0 ≤ power then 'e' :: '+' :: integer power else 'e' :: integer power

/-- Digits with the point after the first one, and the power of ten that makes up for it. -/
def scientific (layout : Layout) (digits : List Char) (position : Int) : List Char :=
  let mantissa :=
    match digits with
    | first :: second :: rest => first :: '.' :: second :: rest
    | few => few
  mantissa ++ layout.exponent (position - 1)

/-- A decimal magnitude as written. -/
def magnitude (layout : Layout) (decimal : Decimal) : List Char :=
  let digits := Nat.toDigits 10 decimal.significand
  let position := digits.length + decimal.exponent
  if layout.isPositional position then layout.positional digits position
  else layout.scientific digits position

/-- A number as written. -/
def chars (layout : Layout) (value : Float) : List Char :=
  if value.isNaN then ['N', 'a', 'N']
  else
    let unsigned :=
      if value.isInf then ['i', 'n', 'f']
      else layout.magnitude (Decimal.shortest layout.tie (codeOf value))
    if isNegative value then '-' :: unsigned else unsigned

/-- A number as text. -/
def write (layout : Layout) (value : Float) : String := String.ofList (layout.chars value)

end Layout

/-- The text of a result, as printed and stored. -/
def resultText (value : Float) : String := Layout.result.write value

end Calculator.Number
