import Calculator.Proofs.Expression.Balance
import Calculator.Proofs.Expression.Depth
import Calculator.Proofs.Expression.Tokens

/-!
# Which result an expression has

The pieces and the parentheses of a text are looked at first. After that the verdict is reached on
the stack of values, where every number is one value more and every binary operator one less, in
whatever order they come. Since the postorder has the same numbers and operators as the
expression, how many of them there are decides which results are possible
(`verdict_of_postorder`): no value is left only if there was no token, and one value is left only
if there is one number more than there are binary operators.
-/

namespace Calculator

namespace Token

variable {token : Token} {tokens : List Token}

/-- Tokens that are no parentheses are numbers, binary operators and square roots. -/
theorem length_eq_counts (plain : ∀ token ∈ tokens, token.isParenthesis = false) :
    tokens.length = count .number tokens + count .binary tokens + count .squareRoot tokens := by
  induction tokens with
  | nil => rfl
  | cons token tokens ih =>
    have others := ih fun other member => plain other (List.mem_cons_of_mem token member)
    have first := plain token List.mem_cons_self
    rw [List.length_cons, count_cons, count_cons, count_cons]
    cases kind : token.kind <;> simp [isParenthesis, kind] at first ⊢ <;> omega

/-- A token lacks operands, or it leaves at least one value. -/
theorem applyTo_cases (plain : token.isParenthesis = false) (stack : List Float) :
    token.applyTo stack = .error .stackUnderflow ∨
      ∃ values, token.applyTo stack = .ok values ∧ 0 < values.length := by
  cases token with
  | number text value => exact .inr ⟨value :: stack, rfl, Nat.succ_pos _⟩
  | operator op =>
    by_cases few : stack.length ≤ op.held
    · exact .inl (Operator.applyTo_eq_error few)
    · obtain ⟨values, applied, length⟩ := Operator.exists_applyTo (Nat.lt_of_not_le few)
      exact .inr ⟨values, applied, by omega⟩
  | opening => cases plain
  | closing => cases plain

/-- Tokens lack operands somewhere, or any token at all leaves at least one value. -/
theorem applyAll_cases (plain : ∀ token ∈ tokens, token.isParenthesis = false)
    (stack : List Float) :
    applyAll tokens stack = .error .stackUnderflow ∨
      ∃ values, applyAll tokens stack = .ok values ∧
        (0 < stack.length + tokens.length → 0 < values.length) := by
  induction tokens generalizing stack with
  | nil => exact .inr ⟨stack, rfl, id⟩
  | cons token tokens ih =>
    have others := fun other member => plain other (List.mem_cons_of_mem token member)
    rw [applyAll_cons]
    rcases applyTo_cases (plain token List.mem_cons_self) stack with
      lacks | ⟨middle, step, some⟩
    · rw [lacks]
      exact .inl rfl
    · rw [step]
      rcases ih others middle with lacks | ⟨values, run, more⟩
      · exact .inl lacks
      · exact .inr ⟨values, run, fun _ => more (Nat.lt_add_right _ some)⟩

end Token

/-- The ways in which a calculation can end, by the numbers of tokens of each kind. -/
inductive Verdict (tokens : List Token) : Except EvaluationError Float → Prop where
  /-- An operator lacks operands. -/
  | underflow (some : 0 < Token.count .number tokens + Token.count .binary tokens +
      Token.count .squareRoot tokens) : Verdict tokens (.error .stackUnderflow)
  /-- There is nothing to calculate. -/
  | nothing (none : Token.count .number tokens + Token.count .binary tokens +
      Token.count .squareRoot tokens = 0) : Verdict tokens (.error .emptyResult)
  /-- The binary operators join all numbers to one value. -/
  | value (result : Float)
      (joined : Token.count .number tokens = Token.count .binary tokens + 1) :
      Verdict tokens (.ok result)
  /-- There are too few binary operators to join all numbers. -/
  | leftOver (apart : Token.count .binary tokens + 2 ≤ Token.count .number tokens) :
      Verdict tokens (.error .malformedExpression)

variable {text : String} {tokens ordered : List Token} {value : Float}
  {error : EvaluationError} {result : Except EvaluationError Float}

/-- Parentheses apart, the numbers of tokens leave four ways for a calculation to end. -/
theorem verdict_calculate (plain : ∀ token ∈ tokens, token.isParenthesis = false) :
    Verdict tokens (calculate tokens) := by
  have total := Token.length_eq_counts plain
  rw [calculate_eq_applyAll]
  rcases Token.applyAll_cases plain [] with lacks | ⟨values, run, more⟩
  · rw [lacks]
    refine .underflow ?_
    rw [← total]
    apply List.length_pos_iff.mpr
    rintro rfl
    cases lacks
  · have length := Token.length_of_applyAll run
    rw [run]
    rw [List.length_nil, Nat.zero_add] at length more
    match values with
    | [] =>
      refine .nothing ?_
      rw [← total]
      apply Nat.eq_zero_of_not_pos
      intro some
      exact absurd (more some) (by decide)
    | [value] =>
      rw [List.length_singleton] at length
      exact .value value (by omega)
    | first :: second :: rest =>
      rw [List.length_cons, List.length_cons] at length
      exact .leftOver (by omega)

/-- The postorder has the numbers of tokens that its expression has. -/
theorem verdict_of_postorder (h : postorder tokens = .ok ordered) :
    Verdict tokens (calculate ordered) := by
  have verdict := verdict_calculate fun _ member => isParenthesis_of_mem_postorder h member
  have numbers := count_postorder h .number (by decide) (by decide)
  have binaries := count_postorder h .binary (by decide) (by decide)
  have roots := count_postorder h .squareRoot (by decide) (by decide)
  generalize calculate ordered = result at verdict
  cases verdict with
  | underflow some => exact .underflow (by omega)
  | nothing none => exact .nothing (by omega)
  | value result joined => exact .value result (by omega)
  | leftOver apart => exact .leftOver (by omega)

namespace Verdict

/-- With too few numbers an operator lacks operands. -/
theorem eq_underflow (verdict : Verdict tokens result)
    (few : Token.count .number tokens ≤ Token.count .binary tokens)
    (some : ¬ (Token.count .number tokens = 0 ∧ Token.count .binary tokens = 0 ∧
      Token.count .squareRoot tokens = 0)) : result = .error .stackUnderflow := by
  cases verdict with
  | underflow _ => rfl
  | nothing none => exact absurd (by omega) some
  | value result joined => omega
  | leftOver apart => omega

/-- With one number more than binary operators there is a value, unless operands are lacking. -/
theorem of_joined (verdict : Verdict tokens result)
    (joined : Token.count .number tokens = Token.count .binary tokens + 1) :
    result = .error .stackUnderflow ∨ ∃ value, result = .ok value := by
  cases verdict with
  | underflow _ => exact .inl rfl
  | nothing none => omega
  | value result _ => exact .inr ⟨result, rfl⟩
  | leftOver apart => omega

/-- With too many numbers some are left over, unless operands are lacking. -/
theorem of_apart (verdict : Verdict tokens result)
    (apart : Token.count .binary tokens + 2 ≤ Token.count .number tokens) :
    result = .error .stackUnderflow ∨ result = .error .malformedExpression := by
  cases verdict with
  | underflow _ => exact .inl rfl
  | nothing none => omega
  | value result joined => omega
  | leftOver _ => exact .inr rfl

/-- There is nothing to calculate exactly when there are no numbers and operators. -/
theorem eq_emptyResult_iff (verdict : Verdict tokens result) :
    result = .error .emptyResult ↔
      Token.count .number tokens = 0 ∧ Token.count .binary tokens = 0 ∧
        Token.count .squareRoot tokens = 0 := by
  cases verdict with
  | underflow some => exact ⟨nofun, fun none => by omega⟩
  | nothing none => exact ⟨fun _ => by omega, fun _ => rfl⟩
  | value result joined => exact ⟨nofun, fun none => by omega⟩
  | leftOver apart => exact ⟨nofun, fun none => by omega⟩

end Verdict

/-! ## The last stage -/

/-- A value is finite if it is of no other kind. -/
theorem isFinite_of_kind {value : Float.Model.UnpackedFloat} (notInfinite : value.isInf = false)
    (number : value.isNaN = false) : value.isFinite = true := by
  cases value with
  | infinity sign => cases notInfinite
  | notANumber => cases number
  | zero sign => rfl
  | finite sign mantissa exponent positive => rfl

/-- A value is finite, infinite or no number, and it is passed on or refused accordingly. -/
theorem requireFinite_cases (value : Float) :
    (value.isFinite = true ∧ requireFinite value = .ok value) ∨
    (value.isInf = true ∧ requireFinite value = .error .infiniteResult) ∨
    (value.isNaN = true ∧ requireFinite value = .error .notANumber) := by
  by_cases infinite : value.isInf = true
  · exact .inr (.inl ⟨infinite, requireFinite_of_isInf infinite⟩)
  · by_cases noNumber : value.isNaN = true
    · exact .inr (.inr ⟨noNumber, requireFinite_of_isNaN noNumber⟩)
    · have finite : value.isFinite = true :=
        isFinite_of_kind (Bool.eq_false_iff.mpr infinite) (Bool.eq_false_iff.mpr noNumber)
      exact .inl ⟨finite, requireFinite_of_isFinite finite⟩

/-- Exactly the finite values are passed on. -/
theorem requireFinite_eq_ok_iff {result : Float} :
    requireFinite value = .ok result ↔ result.isFinite = true ∧ value = result := by
  constructor
  · intro h
    rcases requireFinite_cases value with ⟨finite, passed⟩ | ⟨-, refused⟩ | ⟨-, refused⟩
    · rw [passed] at h
      obtain rfl := Except.ok.inj h
      exact ⟨finite, rfl⟩
    · rw [refused] at h
      cases h
    · rw [refused] at h
      cases h
  · rintro ⟨finite, rfl⟩
    exact requireFinite_of_isFinite finite

/-- Exactly the infinities are refused as such. -/
theorem requireFinite_eq_infiniteResult_iff :
    requireFinite value = .error .infiniteResult ↔ value.isInf = true := by
  constructor
  · intro h
    rcases requireFinite_cases value with ⟨-, passed⟩ | ⟨infinite, -⟩ | ⟨-, refused⟩
    · rw [passed] at h
      cases h
    · exact infinite
    · rw [refused] at h
      cases h
  · exact requireFinite_of_isInf

/-- Exactly the values that are no numbers are refused as such. -/
theorem requireFinite_eq_notANumber_iff :
    requireFinite value = .error .notANumber ↔ value.isNaN = true := by
  constructor
  · intro h
    rcases requireFinite_cases value with ⟨-, passed⟩ | ⟨-, refused⟩ | ⟨noNumber, -⟩
    · rw [passed] at h
      cases h
    · rw [refused] at h
      cases h
    · exact noNumber
  · exact requireFinite_of_isNaN

/-! ## All stages -/

/-- An expression has the values that the stages before the last one give and that are finite. -/
theorem evaluate_eq_ok_iff :
    evaluate text = .ok value ↔
      value.isFinite = true ∧ Token.tokenize text >>= postorder >>= calculate = .ok value := by
  rw [evaluate_eq]
  constructor
  · intro h
    obtain ⟨given, calculated, passed⟩ := bind_eq_ok h
    obtain ⟨finite, rfl⟩ := requireFinite_eq_ok_iff.mp passed
    exact ⟨finite, calculated⟩
  · rintro ⟨finite, calculated⟩
    rw [calculated]
    exact requireFinite_of_isFinite finite

/-- Errors that say nothing about a value come from the stages before the last one. -/
theorem evaluate_eq_error_iff (notInfinite : error ≠ .infiniteResult)
    (number : error ≠ .notANumber) :
    evaluate text = .error error ↔
      Token.tokenize text >>= postorder >>= calculate = .error error := by
  rw [evaluate_eq, bind_eq_error_iff, or_iff_left]
  rintro ⟨value, -, refused⟩
  rcases requireFinite_eq_error refused with same | same
  · exact notInfinite same
  · exact number same

/-- The stages before the last one say nothing about a value. -/
theorem stages_ne_kind (text : String) :
    (Token.tokenize text >>= postorder >>= calculate) ≠ .error .infiniteResult ∧
      (Token.tokenize text >>= postorder >>= calculate) ≠ .error .notANumber := by
  cases written : Token.tokenize text with
  | error error =>
    obtain ⟨_, _, _, _, _, _, rfl⟩ := Token.tokenize_eq_error_iff.mp written
    exact ⟨nofun, nofun⟩
  | ok tokens =>
    change (postorder tokens >>= calculate) ≠ _ ∧ (postorder tokens >>= calculate) ≠ _
    cases ordering : postorder tokens with
    | error error =>
      obtain ⟨rfl, -⟩ := postorder_eq_error_iff.mp ordering
      exact ⟨nofun, nofun⟩
    | ok ordered =>
      have verdict := verdict_of_postorder ordering
      change calculate ordered ≠ _ ∧ calculate ordered ≠ _
      generalize calculate ordered = result at verdict ⊢
      cases verdict <;> exact ⟨nofun, nofun⟩

/-- A text is refused for a piece exactly when it has no tokens for this piece. -/
theorem evaluate_eq_invalidToken_iff {name : String} :
    evaluate text = .error (.invalidToken name) ↔
      Token.tokenize text = .error (.invalidToken name) := by
  refine (evaluate_eq_error_iff (by nofun) (by nofun)).trans ?_
  constructor
  · intro refused
    rcases bind_eq_error_iff.mp refused with early | ⟨ordered, arranged, failure⟩
    · rcases bind_eq_error_iff.mp early with unread | ⟨tokens, -, unordered⟩
      · exact unread
      · exact absurd (postorder_eq_error_iff.mp unordered).1 nofun
    · obtain ⟨tokens, -, ordering⟩ := bind_eq_ok arranged
      have verdict := verdict_of_postorder ordering
      rw [failure] at verdict
      cases verdict
  · intro refused
    rw [refused]
    rfl

/-- Tokens are refused for their parentheses exactly when these are not balanced. -/
theorem evaluate_eq_mismatchedParenthesis_iff (written : Token.tokenize text = .ok tokens) :
    evaluate text = .error .mismatchedParenthesis ↔ ¬ Balanced tokens := by
  refine (evaluate_eq_error_iff (by nofun) (by nofun)).trans ?_
  rw [written]
  change postorder tokens >>= calculate = _ ↔ _
  constructor
  · intro refused
    rcases bind_eq_error_iff.mp refused with unordered | ⟨ordered, ordering, failure⟩
    · exact (postorder_eq_error_iff.mp unordered).2
    · have verdict := verdict_of_postorder ordering
      rw [failure] at verdict
      cases verdict
  · intro unbalanced
    rw [postorder_eq_error_iff.mpr ⟨rfl, unbalanced⟩]
    rfl

/-- Balanced tokens are calculated, and the value has to be finite. -/
theorem exists_verdict (written : Token.tokenize text = .ok tokens) (balanced : Balanced tokens) :
    ∃ result, Verdict tokens result ∧ evaluate text = result >>= requireFinite ∧
      Token.tokenize text >>= postorder >>= calculate = result := by
  obtain ⟨ordered, ordering⟩ := exists_postorder_iff.mpr balanced
  refine ⟨calculate ordered, verdict_of_postorder ordering, ?_, ?_⟩
  · rw [evaluate_of_tokenize written, ordering]
    rfl
  · rw [written]
    change postorder tokens >>= calculate = _
    rw [ordering]
    rfl

/-- Every text has one result, which the kinds of its tokens narrow down. The first piece that is
no word is reported; otherwise parentheses that are not balanced are; otherwise the numbers of
tokens of each kind decide between no result at all, lacking operands, one value and values left
over. A value is passed on as it was calculated exactly when it is finite, and is refused as what
it is when it is not. -/
theorem evaluate_classified (text : String) :
    (∀ name, evaluate text = .error (.invalidToken name) ↔
      ∃ before piece after, Text.pieces text.toList = before ++ piece :: after ∧
        (∀ earlier ∈ before, Token.IsWord earlier) ∧ ¬ Token.IsWord piece ∧
        name = String.ofList piece) ∧
    ((∀ piece ∈ Text.pieces text.toList, Token.IsWord piece) →
      ∃ tokens, Token.tokenize text = .ok tokens ∧
        tokens.map (·.text.toList) = Text.pieces text.toList ∧
        (∀ token ∈ tokens, token.IsLiteral) ∧
        (evaluate text = .error .mismatchedParenthesis ↔ ¬ Balanced tokens) ∧
        (Balanced tokens →
          let numbers := Token.count .number tokens
          let binaries := Token.count .binary tokens
          let roots := Token.count .squareRoot tokens
          (evaluate text = .error .emptyResult ↔ numbers = 0 ∧ binaries = 0 ∧ roots = 0) ∧
          (numbers ≤ binaries → ¬ (numbers = 0 ∧ binaries = 0 ∧ roots = 0) →
            evaluate text = .error .stackUnderflow) ∧
          (numbers = binaries + 1 →
            evaluate text = .error .stackUnderflow ∨ (∃ value, evaluate text = .ok value) ∨
              evaluate text = .error .infiniteResult ∨ evaluate text = .error .notANumber) ∧
          (binaries + 2 ≤ numbers →
            evaluate text = .error .stackUnderflow ∨
              evaluate text = .error .malformedExpression))) ∧
    (∀ value : Float, evaluate text = .ok value ↔
      value.isFinite = true ∧ Token.tokenize text >>= postorder >>= calculate = .ok value) ∧
    (evaluate text = .error .infiniteResult ↔
      ∃ value : Float, value.isInf = true ∧
        Token.tokenize text >>= postorder >>= calculate = .ok value) ∧
    (evaluate text = .error .notANumber ↔
      ∃ value : Float, value.isNaN = true ∧
        Token.tokenize text >>= postorder >>= calculate = .ok value) := by
  refine ⟨fun name => ?_, fun words => ?_, fun value => evaluate_eq_ok_iff, ?_, ?_⟩
  · rw [evaluate_eq_invalidToken_iff, Token.tokenize_eq_error_iff]
    simp only [EvaluationError.invalidToken.injEq]
  · obtain ⟨tokens, written⟩ := Token.exists_tokenize words
    obtain ⟨pieces, literal⟩ := Token.of_tokenize written
    refine ⟨tokens, written, pieces, literal, evaluate_eq_mismatchedParenthesis_iff written,
      fun balanced => ?_⟩
    obtain ⟨result, verdict, evaluated, calculated⟩ := exists_verdict written balanced
    refine ⟨?_, fun few some => ?_, fun joined => ?_, fun apart => ?_⟩
    · refine (evaluate_eq_error_iff (by nofun) (by nofun)).trans ?_
      rw [calculated]
      exact verdict.eq_emptyResult_iff
    · rw [evaluated, verdict.eq_underflow few some]
      rfl
    · rcases verdict.of_joined joined with rfl | ⟨value, rfl⟩
      · exact .inl evaluated
      · rw [evaluated]
        rcases requireFinite_cases value with ⟨-, passed⟩ | ⟨-, refused⟩ | ⟨-, refused⟩
        · exact .inr (.inl ⟨value, passed⟩)
        · exact .inr (.inr (.inl refused))
        · exact .inr (.inr (.inr refused))
    · rcases verdict.of_apart apart with rfl | rfl
      · exact .inl evaluated
      · exact .inr evaluated
  · rw [evaluate_eq, bind_eq_error_iff, or_iff_right (stages_ne_kind text).1]
    simp only [requireFinite_eq_infiniteResult_iff, and_comm]
  · rw [evaluate_eq, bind_eq_error_iff, or_iff_right (stages_ne_kind text).2]
    simp only [requireFinite_eq_notANumber_iff, and_comm]

end Calculator
