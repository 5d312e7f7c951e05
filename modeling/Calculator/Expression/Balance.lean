import Calculator.Expression.Token

/-!
# Kinds of tokens and balanced parentheses

What becomes of an expression is largely a matter of counting: how many numbers, operators of
either sort and parentheses there are among its tokens. Parentheses are balanced when no more of
them were closed than opened at any point, and in the end as many.
-/

namespace Calculator

namespace Token

/-- The kinds of tokens. -/
inductive Kind where
  | number
  /-- An operator between two operands. -/
  | binary
  /-- The square root of one operand. -/
  | squareRoot
  | opening
  | closing
  deriving DecidableEq, Repr

/-- The kind of a token. -/
def kind : Token → Kind
  | .number .. => .number
  | .operator (.binary _) => .binary
  | .operator .squareRoot => .squareRoot
  | .opening => .opening
  | .closing => .closing

/-- Whether a token is a parenthesis of either sort. -/
def isParenthesis (token : Token) : Bool := token.kind == .opening || token.kind == .closing

/-- How many tokens are of a kind. -/
def count (kind : Kind) (tokens : List Token) : Nat := tokens.countP (·.kind == kind)

/-- No token is of any kind. -/
@[simp]
theorem count_nil (kind : Kind) : count kind [] = 0 := rfl

/-- The first token counts for its own kind. -/
theorem count_cons (kind : Kind) (token : Token) (tokens : List Token) :
    count kind (token :: tokens) = count kind tokens + if token.kind = kind then 1 else 0 := by
  simp [count, List.countP_cons]

/-- Tokens are counted part by part. -/
theorem count_append (kind : Kind) (first second : List Token) :
    count kind (first ++ second) = count kind first + count kind second :=
  List.countP_append

end Token

/-- No parenthesis closes before it was opened, and every one that was opened closes. -/
def Balanced (tokens : List Token) : Prop :=
  (∀ first, first <+: tokens → Token.count .closing first ≤ Token.count .opening first) ∧
    Token.count .opening tokens = Token.count .closing tokens

end Calculator
