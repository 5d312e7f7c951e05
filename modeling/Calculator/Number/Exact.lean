import Calculator.Number.Decimal
import Mathlib.Algebra.Order.Field.Power
import Mathlib.Algebra.Order.Field.Rat

/-!
# Exact values

What the codes of magnitudes and the decimals stand for, as rational numbers of units, and which
of these numbers are rounded to a code: those that are nearer to its magnitude than to the next
smaller and the next greater one, and those halfway to one of these if the code is even.
-/

namespace Calculator.Number

/-- How many units the magnitude of a code is. -/
def unitsOf (code : Nat) : Nat := (Binary.ofCode code).units

/-- The number halfway between the magnitudes of a code and of the next one. -/
def midpoint (code : Nat) : ℚ := (unitsOf code + unitsOf (code + 1)) / 2

/-- How many units a decimal is. -/
def Decimal.inUnits (decimal : Decimal) : ℚ :=
  decimal.significand * 10 ^ decimal.exponent * unitsInOne

/-- A number of units is rounded to a code, a tie to the even code. -/
structure RoundsTo (units : ℚ) (code : Nat) : Prop where
  /-- It is beyond the middle between the next smaller magnitude and this one. -/
  above : ∀ below, below + 1 = code →
    midpoint below < units ∨ (midpoint below = units ∧ code % 2 = 0)
  /-- It stays below the middle between this magnitude and the next greater one. -/
  below : units < midpoint code ∨ (units = midpoint code ∧ code % 2 = 0)

end Calculator.Number
