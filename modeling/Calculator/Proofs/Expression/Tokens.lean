import Calculator.Proofs.Expression.Evaluation
import Calculator.Proofs.Number.Nearest
import Calculator.Proofs.Number.Numeral

/-!
# The tokens of a text

A piece of a text stands for a token if it denotes a number that is not too large or is the symbol
of an operator or a parenthesis (`Token.IsWord`). If all pieces do, the text has tokens, which are
written as these pieces (`exists_tokenize`); otherwise the first piece that does not is reported
as it stands (`tokenize_eq_error_iff`).
-/

namespace Calculator

namespace Token

open Number

/-- The symbols of operators and parentheses. -/
def symbols : List String := ["+", "-", "*", "/", "sqrt", "(", ")"]

/-- A piece denotes a number that is not too large, or is a symbol. -/
def IsWord (piece : List Char) : Prop :=
  (∃ negative magnitude, Denotes piece negative magnitude ∧ magnitude < 2 ^ 1024 - 2 ^ 970) ∨
    String.ofList piece ∈ symbols

variable {piece : List Char} {token : Token} {text : String} {error : EvaluationError}

/-- A piece is a number exactly if it denotes one that is not too large. -/
theorem exists_numberOf?_iff :
    (∃ value, numberOf? piece = some value) ↔
      ∃ negative magnitude, Denotes piece negative magnitude ∧
        magnitude < 2 ^ 1024 - 2 ^ 970 := by
  constructor
  · rintro ⟨value, found⟩
    obtain ⟨⟨negative, decimal⟩, read, finite⟩ := Option.bind_eq_some_iff.mp found
    obtain ⟨magnitude, denotes, units⟩ := exists_denotes read
    exact ⟨negative, magnitude, denotes, (Literal.exists_value?_iff units).mp ⟨value, finite⟩⟩
  · rintro ⟨negative, magnitude, denotes, small⟩
    obtain ⟨decimal, read, units⟩ := denotes.exists_literal
    obtain ⟨value, finite⟩ := (@Literal.exists_value?_iff negative _ _ units).mpr small
    exact ⟨value, Option.bind_eq_some_iff.mpr ⟨_, read, finite⟩⟩

/-- A token is written as the piece that it was made from. -/
theorem of_classify (h : classify piece = .ok token) :
    token.text.toList = piece ∧ token.IsLiteral := by
  unfold classify at h
  dsimp only at h
  cases number : numberOf? piece with
  | some value =>
    simp only [number, Except.ok.injEq] at h
    subst h
    simpa [Token.text, IsLiteral] using number
  | none =>
    simp only [number] at h
    cases symbol : Operator.ofSymbol? (String.ofList piece) with
    | some op =>
      simp only [symbol, Except.ok.injEq] at h
      subst h
      have written := Operator.symbol_of_ofSymbol? symbol
      exact ⟨by rw [Token.text, ← written, String.toList_ofList], trivial⟩
    | none =>
      simp only [symbol] at h
      split at h
      · rename_i opening
        obtain rfl := Except.ok.inj h
        exact ⟨by rw [Token.text, ← opening, String.toList_ofList], trivial⟩
      · split at h
        · rename_i closing
          obtain rfl := Except.ok.inj h
          exact ⟨by rw [Token.text, ← closing, String.toList_ofList], trivial⟩
        · cases h

/-- Every symbol is the text of a token. -/
theorem exists_text_of_mem_symbols (h : text ∈ symbols) :
    ∃ token : Token, token.IsLiteral ∧ token.text = text := by
  have texts : symbols =
      (Operator.all.map Token.operator ++ [Token.opening, Token.closing]).map Token.text := rfl
  rw [texts] at h
  obtain ⟨token, member, written⟩ := List.mem_map.mp h
  refine ⟨token, ?_, written⟩
  rcases List.mem_append.mp member with operator | parenthesis
  · obtain ⟨op, -, rfl⟩ := List.mem_map.mp operator
    trivial
  · simp only [List.mem_cons, List.not_mem_nil, or_false] at parenthesis
    rcases parenthesis with rfl | rfl <;> trivial

/-- The text of a token that can be read is a word. -/
theorem IsLiteral.isWord (literal : token.IsLiteral) : IsWord token.text.toList := by
  cases token with
  | number text value =>
    have found : numberOf? text.toList = some value := literal
    exact .inl (exists_numberOf?_iff.mp ⟨value, found⟩)
  | operator op =>
    right
    rw [String.ofList_toList]
    cases op with
    | binary op => cases op <;> decide
    | squareRoot => decide
  | opening => exact .inr (by decide)
  | closing => exact .inr (by decide)

/-- A piece is classified exactly when it is a word. -/
theorem exists_classify_iff : (∃ token, classify piece = .ok token) ↔ IsWord piece := by
  constructor
  · rintro ⟨token, classified⟩
    obtain ⟨rfl, literal⟩ := of_classify classified
    exact literal.isWord
  · rintro (denotes | symbol)
    · obtain ⟨value, number⟩ := exists_numberOf?_iff.mpr denotes
      exact ⟨.number (String.ofList piece) value, by simp only [classify, number]⟩
    · obtain ⟨token, literal, written⟩ := exists_text_of_mem_symbols symbol
      refine ⟨token, ?_⟩
      rw [← classify_text literal, written, String.toList_ofList]

/-- A piece that is no word is reported as it stands. -/
theorem classify_eq_error_iff :
    classify piece = .error error ↔
      ¬ IsWord piece ∧ error = .invalidToken (String.ofList piece) := by
  have cause : ∀ {other}, classify piece = .error other →
      other = .invalidToken (String.ofList piece) := by
    intro other refused
    unfold classify at refused
    dsimp only at refused
    split at refused
    · cases refused
    split at refused
    · cases refused
    split at refused
    · cases refused
    split at refused
    · cases refused
    exact (Except.error.inj refused).symm
  rw [← exists_classify_iff]
  constructor
  · intro refused
    refine ⟨?_, cause refused⟩
    rintro ⟨token, classified⟩
    rw [classified] at refused
    cases refused
  · rintro ⟨unknown, rfl⟩
    cases classified : classify piece with
    | ok token => exact absurd ⟨token, classified⟩ unknown
    | error other => rw [cause classified]

/-- A text whose pieces are all words has tokens. -/
theorem exists_tokenize (h : ∀ piece ∈ Text.pieces text.toList, IsWord piece) :
    ∃ tokens, tokenize text = .ok tokens :=
  exists_mapM_eq_ok fun piece member => exists_classify_iff.mpr (h piece member)

/-- The tokens of a text are written as its pieces. -/
theorem of_tokenize {tokens : List Token} (h : tokenize text = .ok tokens) :
    tokens.map (·.text.toList) = Text.pieces text.toList ∧ ∀ token ∈ tokens, token.IsLiteral := by
  unfold tokenize at h
  generalize Text.pieces text.toList = pieces at h ⊢
  induction pieces generalizing tokens with
  | nil =>
    obtain rfl := Except.ok.inj h
    simp
  | cons piece pieces ih =>
    obtain ⟨token, others, classified, rest, rfl⟩ := mapM_cons_eq_ok h
    obtain ⟨written, literal⟩ := of_classify classified
    obtain ⟨writtenOthers, literalOthers⟩ := ih rest
    refine ⟨by rw [List.map_cons, written, writtenOthers], fun other member => ?_⟩
    rcases List.mem_cons.mp member with rfl | member
    · exact literal
    · exact literalOthers other member

/-- The first piece that is no word is reported as it stands. -/
theorem tokenize_eq_error_iff :
    tokenize text = .error error ↔
      ∃ before piece after, Text.pieces text.toList = before ++ piece :: after ∧
        (∀ earlier ∈ before, IsWord earlier) ∧ ¬ IsWord piece ∧
        error = .invalidToken (String.ofList piece) := by
  rw [tokenize, mapM_eq_error_iff]
  simp only [exists_classify_iff, classify_eq_error_iff]

end Token

end Calculator
