import Calculator.Number.Exact
import Calculator.Number.Numeral
import Calculator.Proofs.Number.Literal
import Calculator.Proofs.Number.Rounding
import Mathlib.Tactic.FieldSimp
import Mathlib.Tactic.NormNum
import Mathlib.Tactic.Positivity
import Mathlib.Tactic.Ring

/-!
# Literals are read as what they denote

The texts that are read as literals are those that denote a sign and a magnitude, and the decimal
that is read has this sign and this magnitude (`Denotes.exists_literal`, `exists_denotes`). So a
text denotes at most one of them (`Denotes.unique`). The characters of numerals are few
(`Denotes.alphabet`).
-/

namespace Calculator.Number

variable {text sign body digits fraction : List Char} {negative : Bool} {exponent : ℤ}

/-! ## Parts that are read -/

/-- A sign is taken off what does not start with one itself. -/
theorem IsSign.splitSign_append (h : IsSign sign negative)
    (unsigned : splitSign body = (false, body)) : splitSign (sign ++ body) = (negative, body) := by
  cases h with
  | absent => exact unsigned
  | plus => rfl
  | minus => rfl

/-- What is taken off a text is a sign. -/
theorem exists_isSign (text : List Char) :
    ∃ sign, IsSign sign (splitSign text).1 ∧ text = sign ++ (splitSign text).2 := by
  rw [splitSign.eq_def]
  split
  · exact ⟨_, .minus, rfl⟩
  · exact ⟨_, .plus, rfl⟩
  · exact ⟨_, .absent, rfl⟩

/-- The digits of an exponent are read after their sign. -/
theorem exponentValue?_append (h : IsSign sign negative) (nonempty : digits ≠ [])
    (all : AreDigits digits) :
    exponentValue? (sign ++ digits) =
      some (if negative then -(Nat.ofDigitChars 10 digits 0 : ℤ)
        else Nat.ofDigitChars 10 digits 0) := by
  rw [← digitsValue_eq]
  have unsigned := h.splitSign_append (splitSign_of_digits all nonempty)
  exact exponentValue?_of_digits unsigned all nonempty

/-- A power of ten is the end of a numeral. -/
theorem IsPower.isEnding (h : IsPower text exponent) : IsEnding text exponent := by
  cases h with
  | absent => exact isEnding_nil
  | marked mark sign nonempty all =>
    have read := exponentValue?_append sign nonempty all
    obtain rfl | rfl := mark
    · exact ⟨read, startsNoDigit_cons rfl _, rfl⟩
    · exact ⟨read, startsNoDigit_cons rfl _, rfl⟩

/-- What is read as a power of ten is one. -/
theorem isPower_of_exponentPart? (h : exponentPart? text = some exponent) :
    IsPower text exponent := by
  cases text with
  | nil =>
    cases h
    exact .absent
  | cons mark rest =>
    rw [exponentPart?] at h
    split at h
    next isMark =>
      obtain ⟨sign, isSign, same⟩ := exists_isSign rest
      rw [exponentValue?] at h
      generalize splitSign rest = parts at *
      dsimp only at h
      split at h
      next some =>
        cases h
        rw [same, digitsValue_eq]
        exact .marked isMark isSign some.1 (List.all_eq_true.mp some.2)
      next => cases h
    next => cases h

/-! ## Whole numerals -/

/-- The digits before and after a point as one number, each digit after it taking one power of ten
back. -/
theorem inUnits_append (whole fraction : List Char) (exponent : ℤ) :
    (Decimal.mk (digitsValue (whole ++ fraction)) (exponent - fraction.length)).inUnits =
      (Nat.ofDigitChars 10 whole 0 + Nat.ofDigitChars 10 fraction 0 / 10 ^ fraction.length) *
        10 ^ exponent * unitsInOne := by
  have value : digitsValue (whole ++ fraction) =
      10 ^ fraction.length * Nat.ofDigitChars 10 whole 0 + Nat.ofDigitChars 10 fraction 0 := by
    rw [digitsValue_eq, Nat.ofDigitChars_append, Nat.ofDigitChars_eq_ofDigitChars_zero]
  have nonzero : (10 : ℚ) ^ fraction.length ≠ 0 := by positivity
  have back : ((10 ^ fraction.length * Nat.ofDigitChars 10 whole 0 +
      Nat.ofDigitChars 10 fraction 0 : ℕ) : ℚ) * 10 ^ (exponent - fraction.length) =
        (Nat.ofDigitChars 10 whole 0 + Nat.ofDigitChars 10 fraction 0 / 10 ^ fraction.length) *
          10 ^ exponent := by
    rw [zpow_sub₀ (by norm_num), zpow_natCast]
    push_cast
    field_simp
  rw [Decimal.inUnits, value, back]

/-- What denotes a magnitude is read as a decimal of this magnitude. -/
theorem Denotes.exists_literal {magnitude : ℚ} (h : Denotes text negative magnitude) :
    ∃ decimal, Literal.ofChars? text = some ⟨negative, decimal⟩ ∧
      decimal.inUnits = magnitude * unitsInOne := by
  cases h with
  | @parts sign mantissa power _ value exponent isSign isMantissa isPower =>
    have ending := isPower.isEnding
    cases isMantissa with
    | whole nonempty all =>
      have taken := isSign.splitSign_append (@splitSign_digits _ power all nonempty)
      exact ⟨_, Literal.ofChars?_plain taken all nonempty ending, rfl⟩
    | @point whole fraction nonempty all allFraction =>
      have taken := isSign.splitSign_append
        (@splitSign_digits _ ('.' :: (fraction ++ power)) all nonempty)
      rw [List.append_assoc, List.cons_append]
      exact ⟨_, Literal.ofChars?_point taken all nonempty allFraction ending,
        inUnits_append whole fraction exponent⟩
    | @fraction fraction nonempty all =>
      have taken : splitSign (sign ++ '.' :: (fraction ++ power)) =
          (negative, [] ++ '.' :: (fraction ++ power)) := isSign.splitSign_append rfl
      have none : AreDigits [] := fun _ member => absurd member List.not_mem_nil
      refine ⟨_, Literal.ofChars?_of_parts taken none (.inr nonempty) (startsNoDigit_cons rfl _)
        (fractionPart_point all ending.noDigit) ending.power, ?_⟩
      rw [inUnits_append, Nat.ofDigitChars_nil, Nat.cast_zero, zero_add]

/-- The characters taken as digits are digits. -/
theorem areDigits_takeWhile (text : List Char) : AreDigits (text.takeWhile Char.isDigit) :=
  List.all_eq_true.mp List.all_takeWhile

/-- A point is followed by the digits of a fraction; without one there is none. -/
theorem fractionPart_cases (tail : List Char) :
    (∃ fraction rest, tail = '.' :: (fraction ++ rest) ∧ AreDigits fraction ∧
      fractionPart tail = (fraction, rest)) ∨ fractionPart tail = ([], tail) := by
  rw [fractionPart.eq_def]
  split
  next rest =>
    refine .inl ⟨_, _, ?_, areDigits_takeWhile rest, rfl⟩
    rw [List.takeWhile_append_dropWhile]
  next => exact .inr rfl

/-- Digits and what is read as a fraction after them are a mantissa if there is any digit. -/
theorem exists_isMantissa {whole tail rest : List Char} (all : AreDigits whole)
    (taken : fractionPart tail = (fraction, rest)) (some : ¬ (whole = [] ∧ fraction = [])) :
    ∃ mantissa value, whole ++ tail = mantissa ++ rest ∧ IsMantissa mantissa value ∧
      value = Nat.ofDigitChars 10 whole 0 +
        Nat.ofDigitChars 10 fraction 0 / 10 ^ fraction.length := by
  obtain ⟨digits, others, rfl, allDigits, parts⟩ | parts := fractionPart_cases tail
  · cases parts.symm.trans taken
    by_cases none : whole = []
    · subst none
      refine ⟨'.' :: fraction, _, rfl, .fraction (fun none => some ⟨rfl, none⟩) allDigits, ?_⟩
      rw [Nat.ofDigitChars_nil, Nat.cast_zero, zero_add]
    · refine ⟨whole ++ '.' :: fraction, _, ?_, .point none all allDigits, rfl⟩
      rw [List.append_assoc, List.cons_append]
  · cases parts.symm.trans taken
    refine ⟨whole, _, rfl, .whole (fun none => some ⟨none, rfl⟩) all, ?_⟩
    rw [Nat.ofDigitChars_nil, Nat.cast_zero, zero_div, add_zero]

/-- What is read as a literal denotes its sign and magnitude. -/
theorem exists_denotes {decimal : Decimal}
    (h : Literal.ofChars? text = some ⟨negative, decimal⟩) :
    ∃ magnitude, Denotes text negative magnitude ∧
      decimal.inUnits = magnitude * unitsInOne := by
  obtain ⟨sign, isSign, same⟩ := exists_isSign text
  rw [Literal.ofChars?] at h
  generalize splitSign text = parts at *
  obtain ⟨minus, body⟩ := parts
  dsimp only at *
  obtain ⟨⟨fraction, rest⟩, taken⟩ : ∃ parts, parts = fractionPart (body.dropWhile Char.isDigit) :=
    ⟨_, rfl⟩
  rw [← taken, Option.ite_none_left_eq_some, Option.map_eq_some_iff] at h
  obtain ⟨some, exponent, read, literal⟩ := h
  cases literal
  obtain ⟨mantissa, value, pieces, isMantissa, rfl⟩ :=
    exists_isMantissa (areDigits_takeWhile body) taken.symm some
  have numeral := Denotes.parts isSign isMantissa (isPower_of_exponentPart? read)
  rw [← pieces, List.takeWhile_append_dropWhile, ← same] at numeral
  exact ⟨_, numeral, inUnits_append _ _ exponent⟩

/-- A text denotes one sign and one magnitude at most. -/
theorem Denotes.unique {minus : Bool} {magnitude other : ℚ} (h : Denotes text negative magnitude)
    (h' : Denotes text minus other) : minus = negative ∧ other = magnitude := by
  obtain ⟨decimal, read, units⟩ := h.exists_literal
  obtain ⟨again, readAgain, unitsAgain⟩ := h'.exists_literal
  rw [read] at readAgain
  cases readAgain
  have nonzero : (unitsInOne : ℚ) ≠ 0 := Nat.cast_ne_zero.mpr unitsInOne_pos.ne'
  exact ⟨rfl, mul_right_cancel₀ nonzero (unitsAgain.symm.trans units)⟩

/-! ## The characters of numerals -/

/-- A sign is among them. -/
theorem IsSign.alphabet (h : IsSign text negative) : ∀ c ∈ text, IsNumeralChar c := by
  cases h with
  | absent => exact nofun
  | plus => exact List.forall_mem_singleton.mpr (.inr (by decide))
  | minus => exact List.forall_mem_singleton.mpr (.inr (by decide))

/-- So are digits. -/
theorem AreDigits.alphabet (h : AreDigits text) : ∀ c ∈ text, IsNumeralChar c :=
  fun c member => .inl (h c member)

/-- So is a mantissa. -/
theorem IsMantissa.alphabet {value : ℚ} (h : IsMantissa text value) :
    ∀ c ∈ text, IsNumeralChar c := by
  have point : IsNumeralChar '.' := .inr (by decide)
  cases h with
  | whole _ all => exact all.alphabet
  | point _ all allFraction =>
    rw [List.forall_mem_append, List.forall_mem_cons]
    exact ⟨all.alphabet, point, allFraction.alphabet⟩
  | fraction _ all =>
    rw [List.forall_mem_cons]
    exact ⟨point, all.alphabet⟩

/-- So is a power of ten. -/
theorem IsPower.alphabet {exponent : ℤ} (h : IsPower text exponent) :
    ∀ c ∈ text, IsNumeralChar c := by
  cases h with
  | absent => exact nofun
  | marked mark isSign _ all =>
    rw [List.forall_mem_cons, List.forall_mem_append]
    refine ⟨.inr ?_, isSign.alphabet, all.alphabet⟩
    obtain rfl | rfl := mark <;> decide

/-- A numeral is written with the characters of its parts. -/
theorem Denotes.alphabet {magnitude : ℚ} (h : Denotes text negative magnitude) :
    ∀ c ∈ text, IsNumeralChar c := by
  cases h with
  | parts isSign isMantissa isPower =>
    rw [List.forall_mem_append, List.forall_mem_append]
    exact ⟨isSign.alphabet, isMantissa.alphabet, isPower.alphabet⟩

/-- The letter n is not one of them, in either case. -/
theorem toLower_ne_of_isNumeralChar {c : Char} (h : IsNumeralChar c) : c.toLower ≠ 'n' := by
  obtain digit | other := h
  · have bounds : 48 ≤ c.toNat ∧ c.toNat ≤ 57 := Char.isDigit_iff_toNat.mp digit
    have same : c.toLower = c := dif_neg fun upper => by
      have large : 65 ≤ c.toNat := upper.1
      omega
    rw [same]
    rintro rfl
    cases digit
  · have none : ['+', '-', '.', 'e', 'E'].all (·.toLower ≠ 'n') = true := rfl
    exact of_decide_eq_true (List.all_eq_true.mp none c other)

end Calculator.Number
