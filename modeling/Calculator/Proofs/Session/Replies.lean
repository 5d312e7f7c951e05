import Calculator.Proofs.Expression.Classification
import Calculator.Proofs.Number.Characters
import Calculator.Proofs.Text.Pieces

/-!
# Replies are single lines

A calculation is answered by a written number or by the message of an error. Numbers are written with
digits and a few other characters. A message quotes at most a piece of the expression, and no piece
has a blank character in it. So neither of them goes over more than one line
(`Number.notMem_resultText`, `notMem_message`).
-/

namespace Calculator

/-! ## Written numbers -/

namespace Number

/-- The text of a result is a single line. -/
theorem notMem_resultText (value : Float) : '\n' ∉ (resultText value).toList := by
  rw [resultText, Layout.write, String.toList_ofList]
  intro member
  have feed := List.all_eq_true.mp (Layout.all_chars value) '\n' member
  cases feed

end Number

/-! ## Messages -/

/-- The message of a failed evaluation is a single line. -/
theorem notMem_message {text : String} {error : EvaluationError}
    (refused : evaluate text = .error error) : '\n' ∉ error.message.toList := by
  cases error with
  | invalidToken name =>
    rw [evaluate_eq_invalidToken_iff, Token.tokenize_eq_error_iff] at refused
    obtain ⟨before, piece, after, pieces, -, -, same⟩ := refused
    obtain rfl := EvaluationError.invalidToken.inj same
    have solid := (Text.isPiece_of_mem_pieces (pieces ▸ List.mem_append_right before
      List.mem_cons_self)).solid
    have quoted : (String.ofList piece).toList = piece := String.toList_ofList
    change '\n' ∉ ("Invalid token: " ++ String.ofList piece).toList
    rw [String.toList_append, List.mem_append, not_or, quoted]
    exact ⟨by decide, fun member => Bool.noConfusion (solid '\n' member)⟩
  | mismatchedParenthesis => decide
  | stackUnderflow => decide
  | emptyResult => decide
  | malformedExpression => decide
  | infiniteResult => decide
  | notANumber => decide

end Calculator
