import Calculator.Expression.Calculation
import Calculator.Proofs.Steps

/-!
# Laws of the calculation

Carrying out tokens one list after another composes (`applyAll_append`). Tokens that can be
carried out on some stack do the same above any further values and never look at these
(`applyAll_frame`), so tokens with a value push exactly this value wherever they stand
(`applyAll_of_calculate`).
-/

namespace Calculator

namespace Operator

/-- An operator that finds its operands leaves further values alone. -/
theorem applyTo_frame {op : Operator} {stack values rest : List Float}
    (h : op.applyTo stack = .ok values) : op.applyTo (stack ++ rest) = .ok (values ++ rest) := by
  cases op with
  | binary operator =>
    match stack, h with
    | right :: left :: below, h =>
      obtain rfl := Except.ok.inj h
      rfl
  | squareRoot =>
    match stack, h with
    | operand :: below, h =>
      obtain rfl := Except.ok.inj h
      rfl

end Operator

namespace Token

variable {token : Token} {tokens first second : List Token} {stack values rest : List Float}

/-- A token that can be carried out leaves further values alone. -/
theorem applyTo_frame (h : token.applyTo stack = .ok values) :
    token.applyTo (stack ++ rest) = .ok (values ++ rest) := by
  cases token with
  | number text value =>
    obtain rfl := Except.ok.inj h
    rfl
  | operator op => exact Operator.applyTo_frame h
  | opening => cases h
  | closing => cases h

/-- Carries out several tokens on a stack of values. -/
def applyAll (tokens : List Token) (stack : List Float) : Except EvaluationError (List Float) :=
  tokens.foldlM Token.applyTo stack

/-- No token changes nothing. -/
@[simp]
theorem applyAll_nil : applyAll [] stack = .ok stack := rfl

/-- The first token is carried out first. -/
theorem applyAll_cons :
    applyAll (token :: tokens) stack = token.applyTo stack >>= applyAll tokens :=
  List.foldlM_cons

/-- Two lists are carried out one after the other. -/
theorem applyAll_append :
    applyAll (first ++ second) stack = applyAll first stack >>= applyAll second :=
  List.foldlM_append

/-- What can be carried out is followed by the rest. -/
theorem applyAll_append_of_ok (h : applyAll first stack = .ok values) :
    applyAll (first ++ second) stack = applyAll second values := by
  rw [applyAll_append, h]
  rfl

/-- The first failure is final. -/
theorem applyAll_append_of_error {error : EvaluationError}
    (h : applyAll first stack = .error error) :
    applyAll (first ++ second) stack = .error error := by
  rw [applyAll_append, h]
  rfl

/-- Tokens that can be carried out leave further values alone. -/
theorem applyAll_frame (rest : List Float) (h : applyAll tokens stack = .ok values) :
    applyAll tokens (stack ++ rest) = .ok (values ++ rest) := by
  induction tokens generalizing stack with
  | nil =>
    obtain rfl := Except.ok.inj h
    rfl
  | cons token tokens ih =>
    rw [applyAll_cons] at h ⊢
    obtain ⟨middle, step, h⟩ := bind_eq_ok h
    rw [applyTo_frame step]
    exact ih h

end Token

/-- A calculation carries out its tokens on the empty stack. -/
theorem calculate_eq_applyAll (tokens : List Token) :
    calculate tokens = Token.applyAll tokens [] >>= resultOf := rfl

/-- Only a single value is a result. -/
theorem resultOf_eq_ok {stack : List Float} {value : Float} (h : resultOf stack = .ok value) :
    stack = [value] := by
  match stack, h with
  | [only], h =>
    obtain rfl := Except.ok.inj h
    rfl

/-- A calculation has a value when its tokens leave this value and no other. -/
theorem calculate_eq_ok_iff {tokens : List Token} {value : Float} :
    calculate tokens = .ok value ↔ Token.applyAll tokens [] = .ok [value] := by
  rw [calculate_eq_applyAll]
  constructor
  · intro h
    obtain ⟨stack, run, result⟩ := bind_eq_ok h
    rw [run, resultOf_eq_ok result]
  · intro h
    rw [h]
    rfl

/-- Tokens with a value push it above whatever there is. -/
theorem applyAll_of_calculate {tokens : List Token} {value : Float}
    (h : calculate tokens = .ok value) (stack : List Float) :
    Token.applyAll tokens stack = .ok (value :: stack) :=
  Token.applyAll_frame stack (calculate_eq_ok_iff.mp h)

end Calculator
