import Calculator.Expression.Calculation

/-!
# Expression trees

A tree says what an expression computes without any order of writing: its leaves are numbers,
and every other node applies an operator to the trees below it. The postorder of a tree is
what a stack of values needs to compute it: carrying it out on any stack pushes the value of
the tree and leaves the rest of the stack as it was.
-/

namespace Calculator

/-- An expression without parentheses or blanks. -/
inductive Expression where
  /-- A number and its text. -/
  | number (text : String) (value : Float)
  /-- An operator between two operands. -/
  | binary (op : BinaryOperator) (left right : Expression)
  /-- The square root of an operand. -/
  | squareRoot (operand : Expression)

namespace Expression

/-- The value of a tree, computed from its leaves, the left operand first. It may be infinite or no
number. -/
def value : Expression → Float
  | .number _ value => value
  | .binary .add left right => left.value + right.value
  | .binary .subtract left right => left.value - right.value
  | .binary .multiply left right => left.value * right.value
  | .binary .divide left right => left.value / right.value
  | .squareRoot operand => operand.value.sqrt

/-- Operators between operands are carried out as the tree has them. -/
theorem value_binary (op : BinaryOperator) (left right : Expression) :
    (binary op left right).value = op.apply left.value right.value := by
  cases op <;> rfl

/-- The tokens of a tree, every operator after its operands. -/
def postorder : Expression → List Token
  | .number text value => [.number text value]
  | .binary op left right => left.postorder ++ right.postorder ++ [.operator (.binary op)]
  | .squareRoot operand => operand.postorder ++ [.operator .squareRoot]

/-- Carrying out the postorder of a tree pushes its value. -/
theorem foldlM_postorder (tree : Expression) (stack : List Float) :
    tree.postorder.foldlM Token.applyTo stack = .ok (tree.value :: stack) := by
  induction tree generalizing stack with
  | number text value => rfl
  | binary op left right ihLeft ihRight =>
    rw [postorder, List.foldlM_append, List.foldlM_append, ihLeft]
    change (right.postorder.foldlM Token.applyTo (left.value :: stack) >>= _) = _
    rw [ihRight, value_binary]
    rfl
  | squareRoot operand ih =>
    rw [postorder, List.foldlM_append, ih]
    rfl

end Expression

end Calculator
