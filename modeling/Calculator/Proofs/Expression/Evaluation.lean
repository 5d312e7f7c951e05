import Calculator.Expression.Evaluation
import Calculator.Proofs.Expression.Calculation

/-!
# Laws of the evaluation

An evaluation is its four stages one after another (`evaluate_eq`). A text is split into the
tokens it was written with, provided that every number among them is written as a literal of
its value (`tokenize_of_pieces`). The last stage tells finite values, infinities and values
that are not numbers apart, and every value is of exactly one of these kinds.
-/

namespace Calculator

/-! ## Texts and their tokens -/

namespace Token

/-- Whether a token can come from its own text: a number has to be written as a literal. -/
def IsLiteral : Token → Prop
  | .number text value => numberOf? text.toList = some value
  | .operator _ | .opening | .closing => True

instance (token : Token) : Decidable token.IsLiteral :=
  match token with
  | .number text value => inferInstanceAs (Decidable (numberOf? text.toList = some value))
  | .operator _ | .opening | .closing => .isTrue trivial

/-- The text of a token is classified as this token. -/
theorem classify_text {token : Token} (literal : token.IsLiteral) :
    classify token.text.toList = .ok token := by
  cases token with
  | number text value =>
    have found : numberOf? text.toList = some value := literal
    simp [classify, Token.text, found]
  | operator op =>
    have noNumber : numberOf? op.symbol.toList = none := by
      cases op with
      | binary op => cases op <;> decide
      | squareRoot => decide
    simp [classify, Token.text, noNumber, Operator.ofSymbol?_symbol]
  | opening => rfl
  | closing => rfl

/-- A text whose pieces are the texts of tokens is split into these tokens. -/
theorem tokenize_of_pieces {text : String} {tokens : List Token}
    (pieces : Text.pieces text.toList = tokens.map (·.text.toList))
    (literal : ∀ token ∈ tokens, token.IsLiteral) : tokenize text = .ok tokens := by
  unfold tokenize
  rw [pieces]
  clear pieces
  induction tokens with
  | nil => rfl
  | cons token tokens ih =>
    rw [List.map_cons, List.mapM_cons, classify_text (literal token (by simp)),
      ih fun other member => literal other (by simp [member])]
    rfl

end Token

/-! ## Kinds of values -/

/-- A finite value is of no other kind. -/
theorem kind_of_isFinite {value : Float.Model.UnpackedFloat} (h : value.isFinite = true) :
    value.isInf = false ∧ value.isNaN = false := by
  cases value with
  | infinity sign => cases h
  | notANumber => cases h
  | zero sign => exact ⟨rfl, rfl⟩
  | finite sign mantissa exponent positive => exact ⟨rfl, rfl⟩

/-- A value that is no number is no infinity. -/
theorem kind_of_isNaN {value : Float.Model.UnpackedFloat} (h : value.isNaN = true) :
    value.isInf = false := by
  cases value with
  | infinity sign => cases h
  | notANumber => rfl
  | zero sign => cases h
  | finite sign mantissa exponent positive => cases h

/-- A finite value is passed on. -/
theorem requireFinite_of_isFinite {value : Float} (h : value.isFinite = true) :
    requireFinite value = .ok value := by
  have kind : value.toModel.unpack.isInf = false ∧ value.toModel.unpack.isNaN = false :=
    kind_of_isFinite h
  have notInfinite : FloatingPoint.isInfinite value = false := kind.1
  have number : FloatingPoint.isNaN value = false := kind.2
  simp [requireFinite, notInfinite, number]

/-- An infinity is refused as such. -/
theorem requireFinite_of_isInf {value : Float} (h : value.isInf = true) :
    requireFinite value = .error .infiniteResult := by
  have infinite : FloatingPoint.isInfinite value = true := h
  simp [requireFinite, infinite]

/-- A value that is not a number is refused as such. -/
theorem requireFinite_of_isNaN {value : Float} (h : value.isNaN = true) :
    requireFinite value = .error .notANumber := by
  have kind : value.toModel.unpack.isInf = false := kind_of_isNaN h
  have notInfinite : FloatingPoint.isInfinite value = false := kind
  have noNumber : FloatingPoint.isNaN value = true := h
  simp [requireFinite, notInfinite, noNumber]

/-- A value is refused only for its kind. -/
theorem requireFinite_eq_error {value : Float} {error : EvaluationError}
    (h : requireFinite value = .error error) : error = .infiniteResult ∨ error = .notANumber := by
  unfold requireFinite at h
  split at h
  · exact .inl (Except.error.inj h).symm
  · split at h
    · exact .inr (Except.error.inj h).symm
    · cases h

/-! ## The stages -/

/-- A text is evaluated by its tokens alone. -/
theorem ofText_congr {text other : String}
    (same : Token.tokenize text = Token.tokenize other) :
    Evaluation.ofText text = Evaluation.ofText other := by
  rw [Evaluation.ofText, Evaluation.ofText, same]

/-- An evaluation goes through its stages and stops at the first failure. -/
theorem evaluate_eq (text : String) :
    evaluate text = Token.tokenize text >>= postorder >>= calculate >>= requireFinite := by
  have last : ∀ tokens ordered,
      (Evaluation.ofOrders tokens ordered).outcome.map Prod.fst = finiteValue ordered := by
    intro tokens ordered
    unfold Evaluation.ofOrders
    cases finiteValue ordered <;> rfl
  unfold evaluate Evaluation.ofText
  cases Token.tokenize text with
  | error error => rfl
  | ok tokens =>
    dsimp only
    show _ = postorder tokens >>= calculate >>= requireFinite
    cases postorder tokens with
    | error error => rfl
    | ok ordered => exact last tokens ordered

/-- What the stages before the last give for a text whose tokens are known. -/
theorem evaluate_of_tokenize {text : String} {tokens : List Token}
    (h : Token.tokenize text = .ok tokens) :
    evaluate text = (postorder tokens >>= calculate) >>= requireFinite := by
  rw [evaluate_eq, h]
  rfl

end Calculator
