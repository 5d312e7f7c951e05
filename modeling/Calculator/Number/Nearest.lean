import Calculator.Number.Binary
import Mathlib.Algebra.Order.Field.Power
import Mathlib.Algebra.Order.Field.Rat

/-!
# The nearest number

Which 64-bit number an exact value is rounded to, apart from how it is found: of all finite numbers
the nearest one, and of two that are equally near the one with an even significand. The bits of a
number end in those of its significand.
-/

namespace Calculator.Number

/-- The exact value of an unpacked number if it is finite: a significand times a power of two. -/
def unpackedValue : Float.Model.UnpackedFloat → ℚ
  | .finite sign significand exponent _ => sign.apply significand * 2 ^ exponent
  | .zero _ | .infinity _ | .notANumber => 0

/-- The exact value of a number, if it is finite. -/
def exactValue (value : Float) : ℚ := unpackedValue value.toModel.unpack

/-- A magnitude with a sign. -/
def signed (negative : Bool) (magnitude : ℚ) : ℚ := if negative then -magnitude else magnitude

/-- A number is the finite one nearest to an exact value, a tie to the even one. -/
structure IsNearest (exact : ℚ) (value : Float) : Prop where
  /-- It is finite. -/
  finite : value.isFinite = true
  /-- No finite number is nearer. -/
  nearest : ∀ other : Float, other.isFinite = true →
    |exactValue value - exact| ≤ |exactValue other - exact|
  /-- It is even if a different one is as near. -/
  even : ∀ other : Float, other.isFinite = true → exactValue other ≠ exactValue value →
    |exactValue other - exact| = |exactValue value - exact| → value.toBits.toNat % 2 = 0

end Calculator.Number
