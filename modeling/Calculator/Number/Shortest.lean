import Calculator.Number.Decimal

/-!
# The fewest digits that read back

Every magnitude is the nearest one for an interval of real numbers around it; the ends belong
to the interval exactly when the significand is even, and below a power of two the lower half
is half as wide. Among the decimals in that interval `Decimal.shortest` chooses those with
the fewest digits, and of these the nearest to the magnitude; a rule says which of two that
are equally near is taken. It tries one digit, two digits and so on: a grid of decimals has a
point in the interval only if one of the two grid points around the magnitude lies in it.
Seventeen digits always suffice.
-/

namespace Calculator.Number

/-- Which of two neighbouring natural numbers a value exactly between them is taken for. -/
inductive Tie where
  /-- The greater one. -/
  | up
  /-- The even one. -/
  | even
  deriving DecidableEq, Repr

/-- Whether a value exactly between a natural number and the next one is taken for the
first. -/
def Tie.staysAt (tie : Tie) (below : Nat) : Bool :=
  match tie with
  | .up => false
  | .even => below % 2 = 0

/-- The real numbers that round to one magnitude, as fractions with one denominator. -/
structure RoundingInterval where
  /-- The numerator of the lower end. -/
  low : Nat
  /-- The numerator of the magnitude itself. -/
  middle : Nat
  /-- The numerator of the upper end. -/
  high : Nat
  /-- The common denominator. -/
  denominator : Nat
  /-- Whether the ends belong to the interval. -/
  closed : Bool
  deriving DecidableEq, Repr

namespace RoundingInterval

/-- The interval of a magnitude, in quarters of a unit. -/
def ofBinary (binary : Binary) : RoundingInterval :=
  let gap := Nat.pow 2 binary.exponent
  let middle := 4 * binary.significand * gap
  let narrow := binary.significand = codesPerExponent ∧ binary.exponent ≠ 0
  { low := middle - (if narrow then gap else 2 * gap)
    middle
    high := middle + 2 * gap
    denominator := 4 * unitsInOne
    closed := binary.significand % 2 = 0 }

/-- The interval measured in a power of ten. -/
def measuredIn (interval : RoundingInterval) (power : Int) : RoundingInterval :=
  let enlarge := Nat.pow 10 (-power).toNat
  { low := interval.low * enlarge
    middle := interval.middle * enlarge
    high := interval.high * enlarge
    denominator := interval.denominator * Nat.pow 10 power.toNat
    closed := interval.closed }

/-- Whether a natural number lies in the interval. -/
def contains (interval : RoundingInterval) (point : Nat) : Bool :=
  let numerator := point * interval.denominator
  if interval.closed then interval.low ≤ numerator && numerator ≤ interval.high
  else interval.low < numerator && numerator < interval.high

/-- Digits before the point, counted so that `10 ^ (n - 1) ≤ magnitude < 10 ^ n`: the scale
makes a whole number of the least magnitude. -/
def pointPosition (interval : RoundingInterval) : Int :=
  let scaled := interval.middle * Nat.pow 10 343 / interval.denominator
  (Nat.toDigits 10 scaled).length - 343

/-- The nearest natural number to the magnitude. -/
def nearest (tie : Tie) (interval : RoundingInterval) : Nat :=
  let below := interval.middle / interval.denominator
  let twice := 2 * (interval.middle % interval.denominator)
  if twice < interval.denominator ∨ (twice = interval.denominator ∧ tie.staysAt below) then below
  else below + 1

/-- The natural number of the interval nearest to the magnitude, if it has one: of two it is
`nearest`, and one that stands alone is chosen wherever it lies. -/
def nearestInside? (tie : Tie) (interval : RoundingInterval) : Option Nat :=
  let below := interval.middle / interval.denominator
  match interval.contains below, interval.contains (below + 1) with
  | true, true => some (interval.nearest tie)
  | true, false => some below
  | false, true => some (below + 1)
  | false, false => none

end RoundingInterval

namespace Decimal

/-- A significand of as many digits as asked for, with the carry into one more digit moved
to the exponent. -/
def ofDigits (digits : Nat) (significand : Nat) (exponent : Int) : Decimal :=
  if significand = Nat.pow 10 digits then ⟨Nat.pow 10 (digits - 1), exponent + 1⟩
  else ⟨significand, exponent⟩

/-- The decimal of a given number of digits that reads back as the magnitude, if any. -/
def ofInterval? (tie : Tie) (interval : RoundingInterval) (digits : Nat) : Option Decimal :=
  let exponent := interval.pointPosition - digits
  ((interval.measuredIn exponent).nearestInside? tie).map (ofDigits digits · exponent)

/-- The nearest decimal of seventeen digits. -/
def longest (tie : Tie) (interval : RoundingInterval) : Decimal :=
  let exponent := interval.pointPosition - 17
  ofDigits 17 ((interval.measuredIn exponent).nearest tie) exponent

/-- The shortest decimal that reads back as a finite magnitude, by its code. -/
def shortest (tie : Tie) (code : Nat) : Decimal :=
  if code = 0 then ⟨0, 0⟩
  else
    let interval := RoundingInterval.ofBinary (Binary.ofCode code)
    ((List.range' 1 16).findSome? (ofInterval? tie interval)).getD (longest tie interval)

end Decimal

end Calculator.Number
