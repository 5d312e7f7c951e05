import Calculator.Expression.Error
import Calculator.Expression.Operator
import Calculator.Number.Literal
import Calculator.Text.Blank

/-!
# Tokens

An expression is written as pieces between blanks, and each piece is one token: a number, an
operator or a parenthesis. Nothing is split inside a piece, so `3+4` is no token. A piece is
tried as a number first; a number keeps the text it was written with. The first piece that is
no token decides the error of the whole text.
-/

namespace Calculator

/-- A classified piece of an expression. -/
inductive Token where
  /-- A number and its text. -/
  | number (text : String) (value : Float)
  /-- An operator. -/
  | operator (op : Operator)
  /-- An opening parenthesis. -/
  | opening
  /-- A closing parenthesis. -/
  | closing

namespace Token

/-- A token as written. -/
def text : Token → String
  | .number text _ => text
  | .operator op => op.symbol
  | .opening => "("
  | .closing => ")"

/-- The number that a piece is written as, if it is a literal with a finite value. -/
def numberOf? (piece : List Char) : Option Float :=
  (Number.Literal.ofChars? piece).bind Number.Literal.value?

/-- The token of a piece. -/
def classify (piece : List Char) : Except EvaluationError Token :=
  let text := String.ofList piece
  match numberOf? piece with
  | some value => .ok (.number text value)
  | none =>
    match Operator.ofSymbol? text with
    | some op => .ok (.operator op)
    | none =>
      if text = "(" then .ok .opening
      else if text = ")" then .ok .closing
      else .error (.invalidToken text)

/-- The tokens of a text, or the first piece that is none. -/
def tokenize (text : String) : Except EvaluationError (List Token) :=
  (Text.pieces text.toList).mapM classify

/-- Tokens as one text, a space between any two. -/
def listing (tokens : List Token) : String := " ".intercalate (tokens.map text)

end Token

end Calculator
