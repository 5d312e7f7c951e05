import Calculator.Number.Binary

/-!
# Decimal magnitudes

A decimal magnitude is a natural number times a power of ten. `Decimal.code` rounds it to
the nearest binary magnitude, whatever the size of either part: a value far too large or far
too small for any magnitude is recognised by its exponent alone, before a power of ten of
that size is built.
-/

namespace Calculator.Number

/-- A natural number times a power of ten. -/
structure Decimal where
  /-- The digits, read as one number. -/
  significand : Nat
  /-- The power of ten that the significand is multiplied by. -/
  exponent : Int
  deriving DecidableEq, Repr

namespace Decimal

/-- Powers of ten above this one exceed every finite magnitude. -/
def greatestExponent : Int := 310

/-- A positive decimal that is surely below half a unit: it is less than
`2 ^ (log2 significand + 1 + 3 * exponent)`, because ten is more than eight. -/
def vanishes (decimal : Decimal) : Bool :=
  decimal.exponent < 0 && (decimal.significand.log2 : Int) + 1 + 3 * decimal.exponent < -1080

/-- The code of the binary magnitude nearest to a decimal, a tie to the even code. -/
def code (decimal : Decimal) : Nat :=
  if decimal.significand = 0 then 0
  else if greatestExponent < decimal.exponent then infinityCode
  else if decimal.vanishes then 0
  else if 0 ≤ decimal.exponent then
    nearestCode (decimal.significand * Nat.pow 10 decimal.exponent.toNat * unitsInOne) 1
  else
    nearestCode (decimal.significand * unitsInOne) (Nat.pow 10 (-decimal.exponent).toNat)

end Decimal

end Calculator.Number
