/-!
# Why an expression has no value

The causes form a closed set, in the order in which they are looked for: first the pieces of
the text, then the parentheses, then the operands, and last the value itself.
-/

namespace Calculator

/-- The cause of a failed evaluation. -/
inductive EvaluationError where
  /-- A piece of the text that is neither a number nor an operator nor a parenthesis. -/
  | invalidToken (piece : String)
  /-- A parenthesis without its partner. -/
  | mismatchedParenthesis
  /-- An operator with fewer values before it than it takes. -/
  | stackUnderflow
  /-- No token at all. -/
  | emptyResult
  /-- Values that no operator takes, or a parenthesis in postorder. -/
  | malformedExpression
  /-- A value that is infinite. -/
  | infiniteResult
  /-- A value that is not a number. -/
  | notANumber
  deriving DecidableEq, Repr

/-- The wording of each cause. -/
def EvaluationError.message : EvaluationError → String
  | .invalidToken piece => "Invalid token: " ++ piece
  | .mismatchedParenthesis => "Mismatched parenthesis"
  | .stackUnderflow => "Stack underflow: not enough operands"
  | .emptyResult => "Empty expression: no result"
  | .malformedExpression => "Malformed expression"
  | .infiniteResult => "Result is infinity"
  | .notANumber => "Result is not a number (NaN)"

end Calculator
