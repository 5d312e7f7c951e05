import Calculator.Proofs.Expression.Evaluation
import Calculator.Proofs.Number.Characters
import Calculator.Proofs.Number.Reading
import Calculator.Proofs.Text.Pieces

/-!
# Results can be typed back

The text of a finite result is a single piece (`Number.isPiece_resultText`), and the literal that
it is read as is the number that was written. So a result is an expression whose value is the
result (`result_reads_back`).
-/

namespace Calculator

namespace Number

/-- The text of a number is a piece. -/
theorem isPiece_resultText {value : Float} (finite : value.isFinite = true) :
    Text.IsPiece (resultText value).toList := by
  rw [resultText, Layout.write, String.toList_ofList]
  refine ⟨fun nothing => ?_, fun c member => ?_⟩
  · have read := Layout.result.value?_chars finite
    rw [nothing] at read
    cases read
  · exact isBlank_of_isNumeral (List.all_eq_true.mp (Layout.all_chars value) c member)

/-- The text of a number has a point or a power of ten. -/
theorem mem_resultText {value : Float} (finite : value.isFinite = true) :
    '.' ∈ (resultText value).toList ∨ 'e' ∈ (resultText value).toList := by
  rw [resultText, Layout.write, String.toList_ofList, Layout.result.chars_of_isFinite finite]
  have keeps : Layout.result.keepsPoint = true := rfl
  have marked := Layout.mem_magnitude keeps (Decimal.shortest Layout.result.tie (codeOf value))
  split
  · exact marked.imp (List.mem_cons_of_mem _) (List.mem_cons_of_mem _)
  · exact marked

end Number

namespace Token

/-- The text of a number is one token, the number itself. -/
theorem tokenize_resultText {value : Float} (finite : value.isFinite = true) :
    tokenize (Number.resultText value) = .ok [.number (Number.resultText value) value] := by
  have read : numberOf? (Number.resultText value).toList = some value := by
    rw [Number.resultText, Number.Layout.write, String.toList_ofList]
    exact Number.Layout.result.value?_chars finite
  refine tokenize_of_pieces (Text.pieces_of_isPiece (Number.isPiece_resultText finite)) ?_
  exact List.forall_mem_singleton.mpr read

end Token

/-- The text of a finite result has no blank character, has a point or a power of ten, and is read
as one number, whose bits are those of the result. Evaluating it gives the result again, so no
other finite number has the same text. -/
theorem result_reads_back {value : Float} (finite : value.isFinite = true) :
    (∀ c ∈ (Number.resultText value).toList, Text.isBlank c = false) ∧
      ('.' ∈ (Number.resultText value).toList ∨ 'e' ∈ (Number.resultText value).toList) ∧
      Token.tokenize (Number.resultText value) =
        .ok [.number (Number.resultText value) value] ∧
      evaluate (Number.resultText value) = .ok value ∧
      ∀ other : Float, other.isFinite = true →
        Number.resultText other = Number.resultText value → other = value := by
  refine ⟨(Number.isPiece_resultText finite).solid, Number.mem_resultText finite,
    Token.tokenize_resultText finite, ?_, fun other finiteOther same => ?_⟩
  · rw [evaluate_of_tokenize (Token.tokenize_resultText finite)]
    exact requireFinite_of_isFinite finite
  · exact Number.Layout.result.chars_injective finiteOther finite (String.ofList_injective same)

/-- The ends of the range are typed back: negative zero, the least positive number and the greatest
finite one. -/
theorem result_reads_back_at_ends :
    (Number.resultText (Float.ofBits 0x8000000000000000) = "-0.0" ∧
      evaluate "-0.0" = .ok (Float.ofBits 0x8000000000000000)) ∧
    (Number.resultText (Float.ofBits 1) = "5e-324" ∧ evaluate "5e-324" = .ok (Float.ofBits 1)) ∧
    (Number.resultText (Float.ofBits 0x7FEFFFFFFFFFFFFF) = "1.7976931348623157e308" ∧
      evaluate "1.7976931348623157e308" = .ok (Float.ofBits 0x7FEFFFFFFFFFFFFF)) := by
  have zero : Number.resultText (Float.ofBits 0x8000000000000000) = "-0.0" := by decide +kernel
  have least : Number.resultText (Float.ofBits 1) = "5e-324" := by decide +kernel
  have greatest : Number.resultText (Float.ofBits 0x7FEFFFFFFFFFFFFF) =
      "1.7976931348623157e308" := by decide +kernel
  refine ⟨⟨zero, ?_⟩, ⟨least, ?_⟩, ⟨greatest, ?_⟩⟩
  · rw [← zero]
    exact (result_reads_back (by decide +kernel)).2.2.2.1
  · rw [← least]
    exact (result_reads_back (by decide +kernel)).2.2.2.1
  · rw [← greatest]
    exact (result_reads_back (by decide +kernel)).2.2.2.1

end Calculator
