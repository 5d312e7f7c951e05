import Calculator.Expression.Balance

/-!
# Tokens that can be carried out

Which tokens can be carried out is a matter of counting: a number leaves one value more on the stack
and a binary operator one fewer, so the tokens before another one tell how many values it finds,
whatever these values are. The first token that cannot be carried out decides the error of a
calculation: a parenthesis has no place in postorder, and an operator may lack operands.
-/

namespace Calculator

/-- How many values an operator takes. -/
def Operator.arity (op : Operator) : Nat := if op.isUnary then 1 else 2

namespace Token

/-- How many values tokens leave on an empty stack, if all of them can be carried out. -/
def remaining (tokens : List Token) : Nat := count .number tokens - count .binary tokens

/-- Whether a token can be carried out after others. -/
def FeasibleAfter : Token → List Token → Prop
  | .number .., _ => True
  | .operator op, before => op.arity ≤ remaining before
  | .opening, _ | .closing, _ => False

instance (token : Token) (before : List Token) : Decidable (token.FeasibleAfter before) :=
  match token with
  | .number .. => .isTrue trivial
  | .operator op => inferInstanceAs (Decidable (op.arity ≤ remaining before))
  | .opening | .closing => .isFalse id

/-- The error of a token that cannot be carried out. -/
def refusal (token : Token) : EvaluationError :=
  if token.isParenthesis then .malformedExpression else .stackUnderflow

end Token

/-- Every token can be carried out after those before it. -/
def Feasible (tokens : List Token) : Prop :=
  ∀ before token after, tokens = before ++ token :: after → token.FeasibleAfter before

end Calculator
