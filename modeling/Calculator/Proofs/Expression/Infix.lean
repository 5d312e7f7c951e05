import Calculator.Proofs.Expression.Evaluation
import Calculator.Proofs.Expression.Writing

/-!
# Written order and value

Tokens that spell a tree are a stretch for which the postorder of this tree is written
(`arranged_of_spells`), so they are brought into this postorder, and an expression has the value of
its tree.
-/

namespace Calculator

/-- An operand is one of operands side by side. -/
theorem Arranged.operands {tokens output : List Token} (operand : Arranged .operand tokens output) :
    Arranged .operands tokens output := .next .nothing operand

/-- The kind of stretch that a phrase is. -/
def Phrase.stretch : Phrase → Stretch
  | .sum => .sum
  | .product | .operand => .product
  | .factor => .operand

/-- The postorder of its tree is written for a phrase. -/
theorem arranged_of_spells {phrase : Phrase} {tokens : List Token} {tree : Expression}
    (spells : Spells phrase tokens tree) : Arranged phrase.stretch tokens tree.postorder := by
  induction spells with
  | number text value => exact .number text value
  | group _ ih => exact .group ih
  | operand _ ih => exact .product ih.operands
  | root _ ih =>
    -- nothing stands on the left of a square root
    exact .higher .squareRoot rfl (.product .nothing) ih.operands
  | product _ ih => exact ih
  | multiplicative op kind _ _ ihLeft ihRight =>
    exact .higher (.binary op) (Operator.precedence_of_not_isAdditive kind) ihLeft ihRight.operands
  | sum _ ih => exact .sum ih
  | additive op kind _ _ ihLeft ihRight =>
    exact .lower (.binary op) (Operator.precedence_of_isAdditive kind) ihLeft ihRight

/-- Tokens that spell a tree have the postorder of this tree. -/
theorem postorder_of_spells {tokens : List Token} {tree : Expression}
    (spells : Spells .sum tokens tree) : postorder tokens = .ok tree.postorder :=
  postorder_of_arranged (arranged_of_spells spells)

/-- The postorder of a tree has the value of the tree. -/
theorem calculate_postorder (tree : Expression) : calculate tree.postorder = .ok tree.value :=
  calculate_eq_ok_iff.mpr (tree.foldlM_postorder [])

/-- Tokens that spell a tree have its postorder and its value, and every text written with them
evaluates to this value if it is finite, whatever the values inside the expression are. -/
theorem evaluate_of_spells {tokens : List Token} {tree : Expression}
    (spells : Spells .sum tokens tree) :
    postorder tokens = .ok tree.postorder ∧ calculate tree.postorder = .ok tree.value ∧
      ∀ text : String, Text.pieces text.toList = tokens.map (·.text.toList) →
        (∀ token ∈ tokens, token.IsLiteral) →
        (tree.value.isFinite = true → evaluate text = .ok tree.value) ∧
        (tree.value.isInf = true → evaluate text = .error .infiniteResult) ∧
        (tree.value.isNaN = true → evaluate text = .error .notANumber) := by
  have ordered := postorder_of_spells spells
  have calculated := calculate_postorder tree
  refine ⟨ordered, calculated, fun text pieces literal => ?_⟩
  have evaluated : evaluate text = requireFinite tree.value := by
    rw [evaluate_of_tokenize (Token.tokenize_of_pieces pieces literal), ordered]
    change calculate tree.postorder >>= requireFinite = _
    rw [calculated]
    rfl
  rw [evaluated]
  exact ⟨requireFinite_of_isFinite, requireFinite_of_isInf, requireFinite_of_isNaN⟩

/-- An infinity on the way does not keep an expression from having a value. -/
theorem evaluate_reciprocal_of_infinity :
    Spells .sum
      [.number "1" 1, .operator (.binary .divide), .opening, .number "1" 1,
        .operator (.binary .divide), .number "0" 0, .closing, .operator (.binary .subtract),
        .operator .squareRoot, .number "4" 4]
      (.binary .subtract
        (.binary .divide (.number "1" 1) (.binary .divide (.number "1" 1) (.number "0" 0)))
        (.squareRoot (.number "4" 4))) ∧
    evaluate "1 / ( 1 / 0 ) - sqrt 4" = .ok (-2) := by
  have one : Spells .product [.number "1" 1] (.number "1" 1) := .product (.operand (.number _ _))
  have infinity : Spells .sum
      [.number "1" 1, .operator (.binary .divide), .number "0" 0]
      (.binary .divide (.number "1" 1) (.number "0" 0)) :=
    .sum (.multiplicative .divide rfl one (.number _ _))
  have spells := Spells.additive .subtract rfl
    (.sum (.multiplicative .divide rfl one (.group infinity)))
    (.product (.root (.number "4" 4)))
  refine ⟨spells, ?_⟩
  have value : (Expression.binary .subtract
      (.binary .divide (.number "1" 1) (.binary .divide (.number "1" 1) (.number "0" 0)))
      (.squareRoot (.number "4" 4))).value = -2 := by decide +kernel
  rw [← value]
  exact ((evaluate_of_spells spells).2.2 "1 / ( 1 / 0 ) - sqrt 4" (by decide)
    (by decide +kernel)).1 (by decide +kernel)

end Calculator
