import Calculator.Proofs.Expression.Tokens

/-!
# What a piece stands for

A piece is a number if it denotes one that is not too large, and it is then the nearest number
(`Token.numberOf?_eq_some_iff`); otherwise it may be a symbol, and everything else is reported as it
stands (`Token.classification`), the words for infinities and for what is not a number included.
-/

namespace Calculator

namespace Token

open Number

variable {piece : List Char} {token : Token} {value : Float}

/-- A piece is classified as the token that is written so. -/
theorem classify_eq_ok_iff :
    classify piece = .ok token ↔ token.text.toList = piece ∧ token.IsLiteral := by
  refine ⟨of_classify, ?_⟩
  rintro ⟨rfl, literal⟩
  exact classify_text literal

/-- A text is written as a piece if it is made of the characters of this piece. -/
theorem toList_eq_iff {text : String} : text.toList = piece ↔ String.ofList piece = text := by
  rw [← String.toList_inj, String.toList_ofList, eq_comm]

/-- A number keeps its piece as its text. -/
theorem classify_eq_number_iff {text : String} :
    classify piece = .ok (.number text value) ↔
      text = String.ofList piece ∧ numberOf? piece = some value := by
  rw [classify_eq_ok_iff, Token.text, toList_eq_iff, eq_comm]
  refine and_congr_right ?_
  rintro rfl
  rw [IsLiteral, String.toList_ofList]

/-- The number is the nearest to what the piece denotes, under its sign. -/
theorem numberOf?_eq_some_iff :
    numberOf? piece = some value ↔
      ∃ negative magnitude, Denotes piece negative magnitude ∧ magnitude < 2 ^ 1024 - 2 ^ 970 ∧
        IsNearest (signed negative magnitude) value ∧ isNegative value = negative := by
  rw [numberOf?, Option.bind_eq_some_iff]
  constructor
  · rintro ⟨⟨negative, decimal⟩, read, finite⟩
    obtain ⟨magnitude, denotes, units⟩ := exists_denotes read
    exact ⟨negative, magnitude, denotes, (Literal.value?_eq_some_iff units).mp finite⟩
  · rintro ⟨negative, magnitude, denotes, nearest⟩
    obtain ⟨decimal, read, units⟩ := denotes.exists_literal
    exact ⟨_, read, (Literal.value?_eq_some_iff units).mpr nearest⟩

/-- Every word for a value that is not finite has an n in it. -/
theorem exists_toLower_eq {word : List Char} (h : word.map Char.toLower ∈ nonFiniteWords) :
    ∃ c ∈ word, c.toLower = 'n' := by
  have everyWord : ∀ letters ∈ nonFiniteWords, 'n' ∈ letters := by decide
  exact List.mem_map.mp (everyWord _ h)

/-- No symbol has one. -/
theorem toLower_ne_of_mem_symbols {text : String} (h : text ∈ symbols) :
    ∀ c ∈ text.toList, c.toLower ≠ 'n' := by
  have none : symbols.all (·.toList.all (·.toLower ≠ 'n')) = true := rfl
  intro c member
  exact of_decide_eq_true (List.all_eq_true.mp (List.all_eq_true.mp none text h) c member)

/-- A word for a value that is not finite is reported, whatever stands before it and in whichever
case its letters are. -/
theorem classify_append_nonFinite (before : List Char) {word : List Char}
    (h : word.map Char.toLower ∈ nonFiniteWords) :
    classify (before ++ word) = .error (.invalidToken (String.ofList (before ++ word))) := by
  obtain ⟨c, inWord, lower⟩ := exists_toLower_eq h
  have member : c ∈ before ++ word := List.mem_append_right before inWord
  refine classify_eq_error_iff.mpr ⟨fun isWord => ?_, rfl⟩
  obtain ⟨negative, magnitude, denotes, -⟩ | symbol := isWord
  · exact toLower_ne_of_isNumeralChar (denotes.alphabet c member) lower
  · rw [← @String.toList_ofList (before ++ word)] at member
    exact toLower_ne_of_mem_symbols symbol c member lower

/-- A piece is a number exactly if it denotes one that is before the middle between the greatest
finite magnitude and the next power of two; the number keeps the piece as its text, and its value is
the one nearest to what the piece denotes, an even one if two are as near, under the sign of the
piece. A symbol is its operator or parenthesis, and every other piece is reported as it stands,
those that end in a word for a value that is not finite included. -/
theorem classification (piece : List Char) :
    ((∃ text value, classify piece = .ok (.number text value)) ↔
      ∃ negative magnitude, Denotes piece negative magnitude ∧
        magnitude < 2 ^ 1024 - 2 ^ 970) ∧
    (∀ text value, classify piece = .ok (.number text value) ↔
      text = String.ofList piece ∧
        ∃ negative magnitude, Denotes piece negative magnitude ∧ magnitude < 2 ^ 1024 - 2 ^ 970 ∧
          IsNearest (signed negative magnitude) value ∧ isNegative value = negative) ∧
    (∀ op, classify piece = .ok (.operator op) ↔ String.ofList piece = op.symbol) ∧
    (classify piece = .ok .opening ↔ String.ofList piece = "(") ∧
    (classify piece = .ok .closing ↔ String.ofList piece = ")") ∧
    (∀ error, classify piece = .error error ↔
      error = .invalidToken (String.ofList piece) ∧
        (∀ negative magnitude, Denotes piece negative magnitude →
          2 ^ 1024 - 2 ^ 970 ≤ magnitude) ∧
        String.ofList piece ∉ symbols) ∧
    ∀ before word, piece = before ++ word → word.map Char.toLower ∈ nonFiniteWords →
      classify piece = .error (.invalidToken (String.ofList piece)) := by
  refine ⟨?_, fun text value => ?_, fun op => ?_, ?_, ?_, fun error => ?_, ?_⟩
  · rw [← exists_numberOf?_iff]
    simp only [classify_eq_number_iff, exists_and_left, exists_eq_left]
  · rw [classify_eq_number_iff, numberOf?_eq_some_iff]
  · rw [classify_eq_ok_iff, toList_eq_iff]
    exact and_iff_left trivial
  · rw [classify_eq_ok_iff, toList_eq_iff]
    exact and_iff_left trivial
  · rw [classify_eq_ok_iff, toList_eq_iff]
    exact and_iff_left trivial
  · rw [classify_eq_error_iff, IsWord, not_or, and_comm]
    refine and_congr_right fun _ => and_congr_left fun _ => ?_
    simp only [not_exists, not_and, not_lt]
  · rintro before word rfl named
    exact classify_append_nonFinite before named

end Token

end Calculator
