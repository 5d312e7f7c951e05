import Calculator.Proofs.Expression.Evaluation
import Calculator.Proofs.Number.Bits
import Calculator.Proofs.Number.Literal
import Calculator.Proofs.Number.Shortest

/-!
# Written numbers are read back

However a layout sets the digits of a decimal, the literal that is read has the same value
(`Layout.exists_literal`). The digits are the shortest that read back, so a finite number is read
from its text under every layout (`Layout.value?_chars`), and different ones have different texts
(`Layout.chars_injective`).
-/

namespace Calculator.Number

variable {digits : List Char}

/-! ## Decimals -/

/-- Zeros after digits multiply by a power of ten. -/
theorem digitsValue_zeros (digits : List Char) (count : Nat) :
    digitsValue (digits ++ List.replicate count '0') = 10 ^ count * digitsValue digits := by
  rw [digitsValue, Nat.ofDigitChars_append, Nat.ofDigitChars_replicate_zero]
  rfl

/-- Zeros before them do not. -/
theorem digitsValue_leadingZeros (digits : List Char) (count : Nat) :
    digitsValue (List.replicate count '0' ++ digits) = digitsValue digits := by
  rw [digitsValue, Nat.ofDigitChars_append, Nat.ofDigitChars_replicate_zero, Nat.mul_zero]
  rfl

/-- Zeros of the significand can be moved to the power of ten. -/
theorem Decimal.inUnits_zeros (significand count : Nat) (power : Int) :
    (Decimal.mk (10 ^ count * significand) power).inUnits =
      (Decimal.mk significand (power + count)).inUnits := by
  rw [inUnits, inUnits, zpow_add₀ (by norm_num), zpow_natCast]
  push_cast
  ring

namespace Layout

variable {layout : Layout} {text : List Char} {negative : Bool} {power : Int}

/-- Digits with the point at a position are read as the decimal. -/
theorem exists_literal_positional (all : ∀ c ∈ digits, c.isDigit = true) (nonempty : digits ≠ [])
    (sign : splitSign text = (negative, layout.positional digits (digits.length + power))) :
    ∃ read, Literal.ofChars? text = some ⟨negative, read⟩ ∧
      read.inUnits = (Decimal.mk (digitsValue digits) power).inUnits := by
  have length : 0 < digits.length := List.length_pos_iff.mpr nonempty
  rw [positional] at sign
  split at sign
  next small =>
    -- the point stands before all digits
    generalize isCount : (-(digits.length + power)).toNat = count at sign
    have body : '0' :: '.' :: List.replicate count '0' ++ digits =
        ['0'] ++ '.' :: (List.replicate count '0' ++ digits ++ []) := by
      rw [List.append_nil]
      rfl
    have allZeros : ∀ c ∈ List.replicate count '0' ++ digits, c.isDigit = true := by
      rw [List.forall_mem_append]
      exact ⟨isDigit_of_mem_replicate count, all⟩
    rw [body] at sign
    have first : ∀ c ∈ ['0'], c.isDigit = true := List.forall_mem_singleton.mpr rfl
    refine ⟨_, Literal.ofChars?_point sign first (List.cons_ne_nil _ _) allZeros isEnding_nil, ?_⟩
    have value : digitsValue (['0'] ++ (List.replicate count '0' ++ digits)) =
        digitsValue digits := digitsValue_leadingZeros digits (count + 1)
    have shift : (0 : Int) - (List.replicate count '0' ++ digits).length = power := by
      rw [List.length_append, List.length_replicate]
      omega
    rw [value, shift]
  split at sign
  next large =>
    -- zeros reach from the digits to the point
    generalize isCount : (digits.length + power).toNat - digits.length = count at sign
    have shift : power = 0 + count := by omega
    have allZeros : ∀ c ∈ digits ++ List.replicate count '0', c.isDigit = true := by
      rw [List.forall_mem_append]
      exact ⟨all, isDigit_of_mem_replicate count⟩
    have someDigits : digits ++ List.replicate count '0' ≠ [] := fun none =>
      nonempty (List.append_eq_nil_iff.mp none).1
    split at sign
    next keepsPoint =>
      have body : splitSign text = (negative,
          digits ++ List.replicate count '0' ++ '.' :: (['0'] ++ [])) := sign
      have last : ∀ c ∈ ['0'], c.isDigit = true := List.forall_mem_singleton.mpr rfl
      refine ⟨_, Literal.ofChars?_point body allZeros someDigits last isEnding_nil, ?_⟩
      rw [List.append_assoc, ← List.replicate_succ', digitsValue_zeros, Decimal.inUnits_zeros, shift]
      congr 2
      simp only [List.length_singleton]
      omega
    next =>
      refine ⟨_, Literal.ofChars?_plain sign allZeros someDigits isEnding_nil, ?_⟩
      rw [digitsValue_zeros, Decimal.inUnits_zeros, shift]
  next small large =>
    -- the point stands among the digits
    obtain ⟨place, isPlace⟩ : ∃ place : Nat, (digits.length + power).toNat = place := ⟨_, rfl⟩
    rw [isPlace] at sign
    have someDigits : digits.take place ≠ [] := fun none => by
      have few := congrArg List.length none
      rw [List.length_take, List.length_nil] at few
      omega
    have parts := all
    rw [← List.take_append_drop place digits, List.forall_mem_append] at parts
    rw [← List.append_nil (digits.drop place)] at sign
    refine ⟨_, Literal.ofChars?_point sign parts.1 someDigits parts.2 isEnding_nil, ?_⟩
    have shift : (0 : Int) - (digits.drop place).length = power := by
      rw [List.length_drop]
      omega
    rw [List.take_append_drop, shift]

/-- Digits with a power of ten are read as the decimal. -/
theorem exists_literal_scientific (all : ∀ c ∈ digits, c.isDigit = true) (nonempty : digits ≠ [])
    (sign : splitSign text = (negative, layout.scientific digits (digits.length + power))) :
    Literal.ofChars? text = some ⟨negative, digitsValue digits, power⟩ := by
  cases digits with
  | nil => exact absurd rfl nonempty
  | cons first others =>
    cases others with
    | nil =>
      have ending := layout.isEnding_exponent ([first].length + power - 1)
      rw [Literal.ofChars?_plain sign all nonempty ending]
      congr 3
      simp only [List.length_singleton]
      omega
    | cons second rest =>
      have ending := layout.isEnding_exponent ((first :: second :: rest).length + power - 1)
      rw [List.forall_mem_cons] at all
      have start : ∀ c ∈ [first], c.isDigit = true := List.forall_mem_singleton.mpr all.1
      have body : splitSign text = (negative, [first] ++ '.' :: (second :: rest ++
          layout.exponent ((first :: second :: rest).length + power - 1))) := sign
      rw [Literal.ofChars?_point body start (by simp) all.2 ending]
      congr 3
      simp only [List.length_cons]
      omega

/-- A decimal is read as one of the same value from what a layout writes. -/
theorem exists_literal {decimal : Decimal}
    (sign : splitSign text = (negative, layout.magnitude decimal)) :
    ∃ read, Literal.ofChars? text = some ⟨negative, read⟩ ∧ read.inUnits = decimal.inUnits := by
  have all := isDigit_of_mem decimal.significand
  have nonempty : Nat.toDigits 10 decimal.significand ≠ [] := Nat.toDigits_ne_nil
  have same : decimal = ⟨digitsValue (Nat.toDigits 10 decimal.significand), decimal.exponent⟩ := by
    rw [digitsValue_toDigits]
  rw [magnitude] at sign
  rw [same]
  split at sign
  · exact exists_literal_positional all nonempty sign
  · exact ⟨_, exists_literal_scientific all nonempty sign, rfl⟩

/-- What is written for a decimal starts with a digit. -/
theorem exists_first_magnitude (layout : Layout) (decimal : Decimal) :
    ∃ first rest, layout.magnitude decimal = first :: rest ∧ first.isDigit = true := by
  have all := isDigit_of_mem decimal.significand
  have nonempty : Nat.toDigits 10 decimal.significand ≠ [] := Nat.toDigits_ne_nil
  rw [magnitude]
  generalize Nat.toDigits 10 decimal.significand = digits at *
  obtain ⟨first, others, rfl⟩ := List.exists_cons_of_ne_nil nonempty
  have digit := all first List.mem_cons_self
  split
  · rw [positional]
    split
    · exact ⟨'0', _, rfl, rfl⟩
    split
    · exact ⟨first, _, rfl, digit⟩
    next small _ =>
      obtain ⟨fewer, same⟩ : ∃ fewer,
          (((first :: others).length : Int) + decimal.exponent).toNat = fewer + 1 :=
        Nat.exists_eq_add_one.mpr (by omega)
      rw [same]
      exact ⟨first, _, rfl, digit⟩
  · cases others with
    | nil => exact ⟨first, _, rfl, digit⟩
    | cons second rest => exact ⟨first, _, rfl, digit⟩

/-- A finite number is written as its shortest decimal, after a minus sign if it has one. -/
theorem chars_of_isFinite (layout : Layout) {value : Float} (finite : value.isFinite = true) :
    layout.chars value =
      if isNegative value then
        '-' :: layout.magnitude (Decimal.shortest layout.tie (codeOf value))
      else layout.magnitude (Decimal.shortest layout.tie (codeOf value)) := by
  have kind : value.isInf = false ∧ value.isNaN = false := kind_of_isFinite finite
  rw [chars, kind.1, kind.2, if_neg Bool.false_ne_true, if_neg Bool.false_ne_true]

/-- The sign is read back. -/
theorem splitSign_chars (layout : Layout) {value : Float} (finite : value.isFinite = true) :
    splitSign (layout.chars value) =
      (isNegative value, layout.magnitude (Decimal.shortest layout.tie (codeOf value))) := by
  obtain ⟨first, rest, same, digit⟩ :=
    layout.exists_first_magnitude (Decimal.shortest layout.tie (codeOf value))
  have unsigned : splitSign (first :: rest) = (false, first :: rest) :=
    @splitSign_digits [first] rest (List.forall_mem_singleton.mpr digit) (List.cons_ne_nil _ _)
  rw [layout.chars_of_isFinite finite, same]
  cases isNegative value with
  | false => exact unsigned
  | true => rfl

/-- A finite number is read from what a layout writes for it. -/
theorem value?_chars (layout : Layout) {value : Float} (finite : value.isFinite = true) :
    (Literal.ofChars? (layout.chars value)).bind Literal.value? = some value := by
  obtain ⟨read, literal, same⟩ := exists_literal (layout.splitSign_chars finite)
  have small := (isFinite_iff value).mp finite
  have code : read.code = codeOf value :=
    Decimal.code_eq_of_roundsTo (same ▸ Decimal.roundsTo_shortest layout.tie (codeOf value)) small
  rw [literal, Option.bind_some, Literal.value?]
  dsimp only
  rw [code, if_pos small, ofCode_codeOf]

/-- Different finite numbers are written differently. -/
theorem chars_injective (layout : Layout) {value other : Float} (finite : value.isFinite = true)
    (finiteOther : other.isFinite = true) (same : layout.chars value = layout.chars other) :
    value = other := by
  have read := layout.value?_chars finite
  rw [same, layout.value?_chars finiteOther] at read
  exact (Option.some.inj read).symm

end Layout

end Calculator.Number
