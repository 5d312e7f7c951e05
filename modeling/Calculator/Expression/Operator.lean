/-!
# Operators

Four operators take two operands and the square root takes one. Additive operators have rank
one, all others rank two; the square root ranks with the multiplicative operators, so after
one of these it does not wait for its operand before the other is carried out.
-/

namespace Calculator

/-- An operator between two operands. -/
inductive BinaryOperator where
  | add
  | subtract
  | multiply
  | divide
  deriving DecidableEq, Repr

/-- The operation on 64-bit numbers, the left operand first. -/
def BinaryOperator.apply : BinaryOperator → Float → Float → Float
  | .add, left, right => left + right
  | .subtract, left, right => left - right
  | .multiply, left, right => left * right
  | .divide, left, right => left / right

/-- An operator of an expression. -/
inductive Operator where
  /-- An operator between two operands. -/
  | binary (op : BinaryOperator)
  /-- The square root of the operand after it. -/
  | squareRoot
  deriving DecidableEq, Repr

namespace Operator

/-- All operators. -/
def all : List Operator :=
  [.binary .add, .binary .subtract, .binary .multiply, .binary .divide, .squareRoot]

/-- How an operator is written. -/
def symbol : Operator → String
  | .binary .add => "+"
  | .binary .subtract => "-"
  | .binary .multiply => "*"
  | .binary .divide => "/"
  | .squareRoot => "sqrt"

/-- The operator with a symbol, which has to match in full. -/
def ofSymbol? (text : String) : Option Operator := all.find? (·.symbol == text)

/-- A symbol names its own operator. -/
theorem ofSymbol?_symbol (operator : Operator) : ofSymbol? operator.symbol = some operator := by
  cases operator with
  | binary op => cases op <;> decide
  | squareRoot => decide

/-- Only the symbol of an operator names it. -/
theorem symbol_of_ofSymbol? {text : String} {operator : Operator}
    (h : ofSymbol? text = some operator) : text = operator.symbol := by
  have found := List.find?_some h
  exact (eq_of_beq found).symm

/-- One for additive operators, two for all others. -/
def precedence : Operator → Nat
  | .binary .add | .binary .subtract => 1
  | .binary .multiply | .binary .divide | .squareRoot => 2

/-- Whether an operator takes a single operand. -/
def isUnary : Operator → Bool
  | .binary _ => false
  | .squareRoot => true

end Operator

end Calculator
