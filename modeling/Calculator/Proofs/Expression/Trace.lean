import Calculator.Proofs.Expression.Classification
import Calculator.Proofs.Expression.Tokens
import Calculator.Proofs.Text.Pieces

/-!
# A trace can be evaluated

A trace has the tokens of an evaluation in both orders, as texts. The tokens of a text are written
as its pieces, and so are the same tokens in any other order: a listing of them is cut into exactly
these tokens (`Token.tokenize_listing`). So both texts of a trace stand for what they list
(`trace_is_faithful`).
-/

namespace Calculator

namespace Token

/-- A token that a text with pieces can have in it. -/
structure IsReadable (token : Token) : Prop where
  /-- It can come from its own text. -/
  literal : token.IsLiteral
  /-- This text is a piece. -/
  piece : Text.IsPiece token.text.toList

/-- The tokens of a text are readable. -/
theorem isReadable_of_tokenize {text : String} {tokens : List Token}
    (h : tokenize text = .ok tokens) : ∀ token ∈ tokens, token.IsReadable := by
  intro token member
  obtain ⟨written, literal⟩ := of_tokenize h
  have inText : token.text.toList ∈ Text.pieces text.toList := by
    rw [← written]
    exact List.mem_map_of_mem member
  exact ⟨literal token member, Text.isPiece_of_mem_pieces inText⟩

/-- Readable tokens are found in their listing. -/
theorem tokenize_listing {tokens : List Token} (readable : ∀ token ∈ tokens, token.IsReadable) :
    tokenize (listing tokens) = .ok tokens := by
  refine tokenize_of_pieces ?_ fun token member => (readable token member).literal
  have characters : (listing tokens).toList = [' '].intercalate (tokens.map (·.text.toList)) := by
    rw [listing, String.toList_intercalate, List.map_map]
    rfl
  rw [characters]
  refine Text.pieces_intercalate rfl fun piece member => ?_
  obtain ⟨token, listed, rfl⟩ := List.mem_map.mp member
  exact (readable token listed).piece

end Token

/-- Bringing tokens into postorder makes no new ones. -/
theorem mem_of_postorder {tokens ordered : List Token} (h : postorder tokens = .ok ordered)
    {token : Token} (member : token ∈ ordered) : token ∈ tokens :=
  (List.mem_filter.mp ((perm_of_postorder h).mem_iff.mp member)).1

/-- An evaluation with a value has gone through all stages, and its trace lists what the first two
of them gave. -/
theorem exists_orders_of_outcome {text : String} {value : Float} {trace : Trace}
    (h : (Evaluation.ofText text).outcome = .ok (value, trace)) :
    ∃ tokens ordered, Token.tokenize text = .ok tokens ∧ postorder tokens = .ok ordered ∧
      finiteValue ordered = .ok value ∧
      trace = ⟨Token.listing tokens, Token.listing ordered⟩ := by
  unfold Evaluation.ofText at h
  cases tokenized : Token.tokenize text with
  | error error =>
    rw [tokenized] at h
    cases h
  | ok tokens =>
    rw [tokenized] at h
    dsimp only at h
    cases arranged : postorder tokens with
    | error error =>
      rw [arranged] at h
      cases h
    | ok ordered =>
      rw [arranged] at h
      dsimp only [Evaluation.ofOrders] at h
      cases calculated : finiteValue ordered with
      | error error =>
        rw [calculated] at h
        cases h
      | ok found =>
        rw [calculated] at h
        cases h
        exact ⟨tokens, ordered, rfl, arranged, calculated, rfl⟩

/-- Whatever text has tokens, a listing of them has the same tokens, numbers with the texts that
they were written with. If the text has a value, its trace can be read back in both orders: the
tokens as written are those of the text and are evaluated as it is, with the same trace, and the
tokens in postorder are those that the text is brought into, with the value of the text. -/
theorem trace_is_faithful (text : String) :
    (∀ tokens, Token.tokenize text = .ok tokens →
      Token.tokenize (Token.listing tokens) = Token.tokenize text) ∧
    ∀ value trace, (Evaluation.ofText text).outcome = .ok (value, trace) →
      Token.tokenize trace.tokens = Token.tokenize text ∧
      (Evaluation.ofText trace.tokens).outcome = .ok (value, trace) ∧
      Token.tokenize trace.postorder = Token.tokenize text >>= postorder ∧
      Token.tokenize trace.postorder >>= calculate = .ok value := by
  have listed : ∀ tokens, Token.tokenize text = .ok tokens →
      Token.tokenize (Token.listing tokens) = Token.tokenize text := by
    intro tokens tokenized
    rw [tokenized]
    exact Token.tokenize_listing (Token.isReadable_of_tokenize tokenized)
  refine ⟨listed, fun value trace h => ?_⟩
  obtain ⟨tokens, ordered, tokenized, arranged, calculated, rfl⟩ := exists_orders_of_outcome h
  have same := listed tokens tokenized
  have readable : ∀ token ∈ ordered, token.IsReadable := fun token member =>
    Token.isReadable_of_tokenize tokenized token (mem_of_postorder arranged member)
  have reordered := Token.tokenize_listing readable
  obtain ⟨found, run, passed⟩ := bind_eq_ok calculated
  obtain ⟨-, rfl⟩ := requireFinite_eq_ok_iff.mp passed
  refine ⟨same, ?_, ?_, ?_⟩
  · rw [ofText_congr same]
    exact h
  · rw [reordered, tokenized]
    exact arranged.symm
  · rw [reordered]
    exact run

/-- Numbers keep a sign, a zero at their end or a missing one at their start, whatever blanks the
text has. -/
theorem trace_is_faithful_to_literals :
    let trace : Trace := ⟨"sqrt ( +4.50 + .45E1 ) * 2", "+4.50 .45E1 + sqrt 2 *"⟩
    (Evaluation.ofText "\tsqrt ( +4.50\u2003+ .45E1 )  * 2\r").outcome = .ok (6, trace) ∧
      (Evaluation.ofText trace.tokens).outcome = .ok (6, trace) ∧
      Token.tokenize trace.postorder >>= calculate = .ok 6 := by
  intro trace
  have given : (Evaluation.ofText "\tsqrt ( +4.50\u2003+ .45E1 )  * 2\r").outcome =
      .ok (6, trace) := by
    have found : (Evaluation.ofText "\tsqrt ( +4.50\u2003+ .45E1 )  * 2\r").outcome.toOption =
        some (6, trace) := by decide +kernel
    cases outcome : (Evaluation.ofText "\tsqrt ( +4.50\u2003+ .45E1 )  * 2\r").outcome with
    | error error =>
      rw [outcome] at found
      cases found
    | ok both =>
      rw [outcome] at found
      exact congrArg Except.ok (Option.some.inj found)
  obtain ⟨-, again, -, calculated⟩ := (trace_is_faithful _).2 6 trace given
  exact ⟨given, again, calculated⟩

end Calculator
