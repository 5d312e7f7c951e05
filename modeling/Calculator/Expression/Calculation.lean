import Calculator.Expression.Token

/-!
# The value of tokens in postorder

A stack holds the values that no operator has taken yet. A number is pushed; an operator
takes the values it needs from the top, the right operand first, and pushes its result. The
arithmetic is that of 64-bit numbers, so a division by zero gives an infinity or no number
here and is refused only at the end.
-/

namespace Calculator

namespace Operator

/-- Takes the operands of an operator from a stack of values and pushes its result. -/
def applyTo : Operator → List Float → Except EvaluationError (List Float)
  | .binary operator, right :: left :: rest => .ok (operator.apply left right :: rest)
  | .squareRoot, operand :: rest => .ok (operand.sqrt :: rest)
  | _, _ => .error .stackUnderflow

end Operator

namespace Token

/-- Carries out one token on a stack of values. -/
def applyTo (stack : List Float) : Token → Except EvaluationError (List Float)
  | .number _ value => .ok (value :: stack)
  | .operator op => op.applyTo stack
  | .opening | .closing => .error .malformedExpression

end Token

/-- The single value that a calculation leaves. -/
def resultOf : List Float → Except EvaluationError Float
  | [] => .error .emptyResult
  | [value] => .ok value
  | _ :: _ :: _ => .error .malformedExpression

/-- The value of tokens in postorder, which may be infinite or no number. -/
def calculate (tokens : List Token) : Except EvaluationError Float := do
  let stack ← tokens.foldlM Token.applyTo []
  resultOf stack

end Calculator
