import Calculator.Expression.Token

/-!
# From written order to postorder

In postorder every operator follows its operands. Numbers are written out at once; an
operator waits until one of the same or a lower rank arrives, or its parenthesis closes, or
the tokens end. An opening parenthesis starts a level of its own, so no operator of an
enclosing level is written before the parenthesis closes. Operators of equal rank are thus
written from left to right, the square root like any other: after `*`, `/` or another square
root it has them written before its own operand.
-/

namespace Calculator

/-- Whether an operator that waits is written before another one waits: it does not rank below
it. -/
def Operator.yieldsTo (waiting next : Operator) : Bool := next.precedence ≤ waiting.precedence

/-- An operator yields to those that do not rank above it. -/
theorem Operator.yieldsTo_iff {waiting next : Operator} :
    waiting.yieldsTo next = true ↔ next.precedence ≤ waiting.precedence := decide_eq_true_iff

/-- The tokens written so far and the operators that wait. -/
structure Arrangement where
  /-- Tokens in postorder, the latest first. -/
  written : List Token
  /-- Operators that wait at the current level, the latest first. -/
  waiting : List Operator
  /-- Operators that wait at each enclosing level, the innermost level first. -/
  enclosing : List (List Operator)

namespace Arrangement

/-- Nothing read, written or waiting. -/
def start : Arrangement := ⟨[], [], []⟩

/-- The written tokens with operators put after them. -/
def release (operators : List Operator) (written : List Token) : List Token :=
  (operators.map Token.operator).reverse ++ written

/-- Reads one token. A closing parenthesis needs an enclosing level to return to. -/
def read (state : Arrangement) : Token → Except EvaluationError Arrangement
  | .number text value => .ok { state with written := .number text value :: state.written }
  | .operator op =>
    .ok { state with
      written := release (state.waiting.takeWhile (·.yieldsTo op)) state.written
      waiting := op :: state.waiting.dropWhile (·.yieldsTo op) }
  | .opening => .ok { state with waiting := [], enclosing := state.waiting :: state.enclosing }
  | .closing =>
    match state.enclosing with
    | [] => .error .mismatchedParenthesis
    | level :: levels =>
      .ok { written := release state.waiting state.written, waiting := level, enclosing := levels }

/-- The tokens in postorder, once all have been read and no level is left open. -/
def finish (state : Arrangement) : Except EvaluationError (List Token) :=
  if state.enclosing = [] then .ok (release state.waiting state.written).reverse
  else .error .mismatchedParenthesis

end Arrangement

/-- Tokens in postorder. -/
def postorder (tokens : List Token) : Except EvaluationError (List Token) := do
  let state ← tokens.foldlM Arrangement.read Arrangement.start
  state.finish

end Calculator
