import Calculator.Proofs.Expression.Evaluation
import Calculator.Proofs.Text.Spacing

/-!
# Expressions with other blanks

The tokens of a text depend on its pieces alone, so blanks are free wherever one may stand. Texts
that are put together with blanks between them have the tokens of one and then those of the other,
unless one of them has none: the first piece that is no token is the first of the whole text
(`Token.tokenize_append_gap`). Every later stage depends on the tokens alone.
-/

namespace Calculator

namespace Token

variable {text other first gap second : String}

/-- Texts that differ in their blanks only have the same tokens. -/
theorem tokenize_of_respaced (h : Text.Respaced text.toList other.toList) :
    tokenize text = tokenize other := by
  rw [tokenize, tokenize, Text.respaced_iff.mp h]

/-- The tokens of two texts with blanks between them. -/
theorem tokenize_append_gap (blanks : Text.IsGap gap.toList) (some : gap ≠ "") :
    tokenize (first ++ gap ++ second) = (do
      let left ← tokenize first
      let right ← tokenize second
      return left ++ right) := by
  have apart : Text.pieces (first ++ gap ++ second).toList =
      Text.pieces first.toList ++ Text.pieces second.toList := by
    rw [String.toList_append, String.toList_append]
    exact Text.pieces_append_gap blanks (mt String.toList_eq_nil_iff.mp some) _ _
  rw [tokenize, apart, List.mapM_append]
  rfl

end Token

/-- Texts that differ in their blanks only have the same value. -/
theorem evaluate_of_respaced {text other : String}
    (h : Text.Respaced text.toList other.toList) : evaluate text = evaluate other := by
  rw [evaluate, evaluate, ofText_congr (Token.tokenize_of_respaced h)]

/-- Two texts with any blanks between them have the tokens of the first and then those of the
second; if the first has none, its error is that of the whole, and if only the second has none, its
error is. Blanks before and after a text change neither its tokens nor its value, and texts that
differ in the blanks around and between their pieces only have the same value. -/
theorem tokenize_respaced :
    (∀ first gap second : String, Text.IsGap gap.toList → gap ≠ "" →
      (∀ left right, Token.tokenize first = .ok left → Token.tokenize second = .ok right →
        Token.tokenize (first ++ gap ++ second) = .ok (left ++ right)) ∧
      (∀ error, Token.tokenize first = .error error →
        Token.tokenize (first ++ gap ++ second) = .error error) ∧
      ∀ left error, Token.tokenize first = .ok left → Token.tokenize second = .error error →
        Token.tokenize (first ++ gap ++ second) = .error error) ∧
    (∀ before text after : String, Text.IsGap before.toList → Text.IsGap after.toList →
      Token.tokenize (before ++ text ++ after) = Token.tokenize text ∧
        evaluate (before ++ text ++ after) = evaluate text) ∧
    ∀ text other : String, Text.Respaced text.toList other.toList →
      evaluate text = evaluate other := by
  refine ⟨fun first gap second blanks some => ?_, fun before text after leading trailing => ?_,
    fun text other => evaluate_of_respaced⟩
  · rw [Token.tokenize_append_gap blanks some]
    refine ⟨?_, ?_, ?_⟩
    · intro left right tokens others
      rw [tokens, others]
      rfl
    · intro error failed
      rw [failed]
      rfl
    · intro left error tokens failed
      rw [tokens, failed]
      rfl
  · have respaced : Text.Respaced (before ++ text ++ after).toList text.toList := by
      rw [String.toList_append, String.toList_append]
      exact Text.respaced_append leading trailing text.toList
    exact ⟨Token.tokenize_of_respaced respaced, evaluate_of_respaced respaced⟩

/-- A blank may end one text, stand between both and begin the other; a character without width is
no blank. -/
theorem tokenize_respaced_between_blanks :
    Token.tokenize ("( sqrt\t" ++ "\u2003\r\n" ++ "\u3000+") =
        .ok [.opening, .operator .squareRoot, .operator (.binary .add)] ∧
      Token.tokenize ("( " ++ "\u2003\r\n" ++ "\u200B )") = .error (.invalidToken "\u200B") ∧
      Token.tokenize ("\u0085" ++ "sqrt" ++ "\u00A0") = .ok [.operator .squareRoot] ∧
      Text.Respaced "(\t+".toList "\u3000( \u1680+\n".toList ∧
      evaluate "(\t+" = evaluate "\u3000( \u1680+\n" := by
  obtain ⟨together, around, between⟩ := tokenize_respaced
  have blanks : Text.IsGap "\u2003\r\n".toList := List.all_eq_true.mp rfl
  obtain ⟨both, -, -⟩ := together "( sqrt\t" "\u2003\r\n" "\u3000+" blanks (by decide)
  obtain ⟨-, -, second⟩ := together "( " "\u2003\r\n" "\u200B )" blanks (by decide)
  obtain ⟨same, -⟩ := around "\u0085" "sqrt" "\u00A0" (List.all_eq_true.mp rfl)
    (List.all_eq_true.mp rfl)
  have respaced : Text.Respaced "(\t+".toList "\u3000( \u1680+\n".toList :=
    Text.respaced_iff.mpr rfl
  exact ⟨both _ _ rfl rfl, second _ _ rfl rfl, same, respaced, between _ _ respaced⟩

end Calculator
