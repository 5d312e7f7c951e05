import Calculator.Expression.Arrangement
import Calculator.Expression.Calculation
import Calculator.Expression.Finite
import Calculator.Notice

/-!
# Evaluating an expression

A text is split into tokens, these are brought into postorder and calculated, and the value
has to be finite. The first stage that fails decides the error. An evaluation that reaches
the second order keeps both as text, its trace, and reports it, and reports the value when
there is one.
-/

namespace Calculator

/-- The tokens of an expression in both orders, as text. -/
structure Trace where
  /-- The tokens as written. -/
  tokens : String
  /-- The tokens in postorder. -/
  postorder : String
  deriving DecidableEq, Repr

/-- What evaluating a text gives and what it reports. -/
structure Evaluation where
  /-- The value and its trace, or why there is none. -/
  outcome : Except EvaluationError (Float × Trace)
  /-- The notices, in order. -/
  notices : List Notice

/-- The finite value of tokens in postorder. -/
def finiteValue (tokens : List Token) : Except EvaluationError Float := do
  let value ← calculate tokens
  requireFinite value

namespace Evaluation

/-- An evaluation that stops before it has anything to report. -/
def failed (error : EvaluationError) : Evaluation := ⟨.error error, []⟩

/-- The evaluation of tokens that have been brought into postorder. -/
def ofOrders (tokens ordered : List Token) : Evaluation :=
  let trace : Trace := ⟨Token.listing tokens, Token.listing ordered⟩
  let arranged := Notice.arranged trace.tokens trace.postorder
  match finiteValue ordered with
  | .error error => ⟨.error error, [arranged]⟩
  | .ok value => ⟨.ok (value, trace), [arranged, .calculated value]⟩

/-- The evaluation of a text. -/
def ofText (text : String) : Evaluation :=
  match Token.tokenize text with
  | .error error => failed error
  | .ok tokens =>
    match postorder tokens with
    | .error error => failed error
    | .ok ordered => ofOrders tokens ordered

end Evaluation

/-- The value of an expression. -/
def evaluate (text : String) : Except EvaluationError Float :=
  (Evaluation.ofText text).outcome.map Prod.fst

end Calculator
