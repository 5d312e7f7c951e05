import Calculator.Expression.Balance

/-!
# Places of tokens

Two tokens may be alike, so to say that none is lost, added or written twice each is taken together
with its place in the expression. Bringing tokens into another order may move an operator to the
right of numbers that it stood before, but it may not move a number past any token that it stood
after.
-/

namespace Calculator

/-- Tokens with their places, counted from a first one, parentheses left out. -/
def Token.placed (first : Nat) (tokens : List Token) : List (Token × Nat) :=
  (tokens.zipIdx first).filter (!·.1.isParenthesis)

/-- An output consists of the tokens at their places, parentheses apart, and whatever is written
before a number stood before it. -/
def Reordered (first : Nat) (tokens output : List Token) : Prop :=
  ∃ written : List (Token × Nat), written.map Prod.fst = output ∧
    written.Perm (Token.placed first tokens) ∧
    written.Pairwise fun earlier later => later.1.kind = .number → earlier.2 < later.2

end Calculator
