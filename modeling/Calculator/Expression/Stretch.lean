import Calculator.Expression.Token
import Mathlib.Data.List.Chain

/-!
# Tokens in any order

Bringing tokens into postorder never asks whether an operand is due. Numbers and groups may stand
side by side or be missing, and an operator takes what stands after it to its level's end or to the
next operator that does not rank higher. `Arranged` relates tokens of this looser kind to what is
written for them: every operator after the stretch on its right, and no parentheses. Where no two
operands stand side by side (`OperandsApart`) a stretch may still lack operands, but it has none
out of place.
-/

namespace Calculator

/-- The kinds of stretches, from the widest to the narrowest. -/
inductive Stretch where
  /-- Products, with additive operators between them. -/
  | sum
  /-- Operands, with operators of the higher rank between them. -/
  | product
  /-- Any number of operands side by side. -/
  | operands
  /-- A number or a group. -/
  | operand
  deriving DecidableEq, Repr

/-- Tokens of a stretch, and what is written for them. -/
inductive Arranged : Stretch → List Token → List Token → Prop where
  /-- A number is written as it stands. -/
  | number (text : String) (value : Float) :
    Arranged .operand [.number text value] [.number text value]
  /-- A group is written as the sum inside. -/
  | group {tokens output : List Token} :
    Arranged .sum tokens output → Arranged .operand (.opening :: tokens ++ [.closing]) output
  /-- There may be no operands. -/
  | nothing : Arranged .operands [] []
  /-- Another operand stands right after those before it. -/
  | next {tokens output last lastOutput : List Token} :
    Arranged .operands tokens output → Arranged .operand last lastOutput →
      Arranged .operands (tokens ++ last) (output ++ lastOutput)
  /-- Operands are a product. -/
  | product {tokens output : List Token} :
    Arranged .operands tokens output → Arranged .product tokens output
  /-- An operator of the higher rank is written after the operands on its right. -/
  | higher {left leftOutput right rightOutput : List Token} (op : Operator) :
    op.precedence = 2 → Arranged .product left leftOutput → Arranged .operands right rightOutput →
      Arranged .product (left ++ .operator op :: right)
        (leftOutput ++ rightOutput ++ [.operator op])
  /-- A product is a sum. -/
  | sum {tokens output : List Token} :
    Arranged .product tokens output → Arranged .sum tokens output
  /-- An additive operator is written after the product on its right. -/
  | lower {left leftOutput right rightOutput : List Token} (op : Operator) :
    op.precedence = 1 → Arranged .sum left leftOutput → Arranged .product right rightOutput →
      Arranged .sum (left ++ .operator op :: right) (leftOutput ++ rightOutput ++ [.operator op])

namespace Token

/-- Whether an operand can end with a token. -/
def endsOperand : Token → Bool
  | .number .. | .closing => true
  | .operator _ | .opening => false

/-- Whether an operand can begin with a token. -/
def beginsOperand : Token → Bool
  | .number .. | .opening | .operator .squareRoot => true
  | .operator (.binary _) | .closing => false

end Token

/-- No operand begins right after another one. -/
def OperandsApart (tokens : List Token) : Prop :=
  tokens.IsChain fun first second => first.endsOperand = true → second.beginsOperand = false

end Calculator
