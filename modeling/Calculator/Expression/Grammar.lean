import Calculator.Expression.Tree

/-!
# The grammar of expressions

A sum joins products by additive operators, a product joins operands by multiplicative ones,
an operand is a factor with square roots before it, and a factor is a number or a sum between
parentheses. Sums and products group from the left.

Two languages share these phrases. `Spells` relates tokens to the tree that they spell; there
only the first operand of a product may be a square root, and of a single factor. `Sentence`
allows any number of square roots before every factor and knows no tree.
-/

namespace Calculator

/-- The kinds of phrases, from the widest to the narrowest. -/
inductive Phrase where
  | sum
  | product
  | operand
  | factor
  deriving DecidableEq, Repr

/-- Operators that join products to a sum. -/
def BinaryOperator.isAdditive : BinaryOperator → Bool
  | .add | .subtract => true
  | .multiply | .divide => false

/-- Tokens that spell a tree as a phrase of some kind. -/
inductive Spells : Phrase → List Token → Expression → Prop where
  /-- A number spells itself. -/
  | number (text : String) (value : Float) :
    Spells .factor [.number text value] (.number text value)
  /-- Parentheses leave no trace in the tree. -/
  | group {tokens : List Token} {tree : Expression} :
    Spells .sum tokens tree → Spells .factor (.opening :: tokens ++ [.closing]) tree
  /-- A factor is an operand. -/
  | operand {tokens : List Token} {tree : Expression} :
    Spells .factor tokens tree → Spells .operand tokens tree
  /-- A square root applies to the factor after it. -/
  | root {tokens : List Token} {tree : Expression} :
    Spells .factor tokens tree →
      Spells .operand (.operator .squareRoot :: tokens) (.squareRoot tree)
  /-- An operand is a product. -/
  | product {tokens : List Token} {tree : Expression} :
    Spells .operand tokens tree → Spells .product tokens tree
  /-- A multiplicative operator takes the product before it and the factor after it. -/
  | multiplicative {left right : List Token} {first second : Expression} (op : BinaryOperator) :
    op.isAdditive = false → Spells .product left first → Spells .factor right second →
      Spells .product (left ++ .operator (.binary op) :: right) (.binary op first second)
  /-- A product is a sum. -/
  | sum {tokens : List Token} {tree : Expression} :
    Spells .product tokens tree → Spells .sum tokens tree
  /-- An additive operator takes the sum before it and the product after it. -/
  | additive {left right : List Token} {first second : Expression} (op : BinaryOperator) :
    op.isAdditive = true → Spells .sum left first → Spells .product right second →
      Spells .sum (left ++ .operator (.binary op) :: right) (.binary op first second)

/-- Tokens that form a phrase of some kind, with square roots before any factor. -/
inductive Sentence : Phrase → List Token → Prop where
  /-- A number is a factor. -/
  | number (text : String) (value : Float) : Sentence .factor [.number text value]
  /-- A sum between parentheses is a factor. -/
  | group {tokens : List Token} :
    Sentence .sum tokens → Sentence .factor (.opening :: tokens ++ [.closing])
  /-- A factor is an operand. -/
  | operand {tokens : List Token} : Sentence .factor tokens → Sentence .operand tokens
  /-- A square root before an operand makes an operand. -/
  | root {tokens : List Token} :
    Sentence .operand tokens → Sentence .operand (.operator .squareRoot :: tokens)
  /-- An operand is a product. -/
  | product {tokens : List Token} : Sentence .operand tokens → Sentence .product tokens
  /-- A multiplicative operator joins a product and an operand. -/
  | multiplicative {left right : List Token} (op : BinaryOperator) :
    op.isAdditive = false → Sentence .product left → Sentence .operand right →
      Sentence .product (left ++ .operator (.binary op) :: right)
  /-- A product is a sum. -/
  | sum {tokens : List Token} : Sentence .product tokens → Sentence .sum tokens
  /-- An additive operator joins a sum and a product. -/
  | additive {left right : List Token} (op : BinaryOperator) :
    op.isAdditive = true → Sentence .sum left → Sentence .product right →
      Sentence .sum (left ++ .operator (.binary op) :: right)

end Calculator
