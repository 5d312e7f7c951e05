import Calculator.Expression.Error

/-!
# Finite results

A result has to be finite, whatever its width: infinities and values that are not numbers are
refused, and every other value is passed on as it is.
-/

namespace Calculator

/-- Numbers that may be infinite or not a number. -/
class FloatingPoint (α : Type) where
  /-- Whether a value is an infinity of either sign. -/
  isInfinite : α → Bool
  /-- Whether a value is no number. -/
  isNaN : α → Bool

instance : FloatingPoint Float := ⟨Float.isInf, Float.isNaN⟩

instance : FloatingPoint Float32 := ⟨Float32.isInf, Float32.isNaN⟩

/-- A finite value as it is. -/
def requireFinite {α : Type} [FloatingPoint α] (value : α) : Except EvaluationError α :=
  if FloatingPoint.isInfinite value then .error .infiniteResult
  else if FloatingPoint.isNaN value then .error .notANumber
  else .ok value

end Calculator
