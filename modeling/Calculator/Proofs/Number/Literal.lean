import Calculator.Number.Layout
import Calculator.Number.Literal

/-!
# Literals are read part by part

A literal is read as the digits before a point, those after it, and a power of ten
(`Literal.ofChars?_of_parts`), each up to where the next one starts. A power of ten that a layout
writes is read as it was written (`Layout.exponentPart?_exponent`).
-/

namespace Calculator.Number

/-! ## Reading parts -/

/-- The text after some digits does not go on with one. -/
def StartsNoDigit (text : List Char) : Prop := ∀ c ∈ text.head?, c.isDigit = false

variable {digits rest : List Char}

/-- A first character that is no digit is enough. -/
theorem startsNoDigit_cons {c : Char} (h : c.isDigit = false) (rest : List Char) :
    StartsNoDigit (c :: rest) := by
  intro first member
  obtain rfl : c = first := Option.some.inj member
  exact h

/-- Digits are taken up to what does not go on with one. -/
theorem takeWhile_digits (all : ∀ c ∈ digits, c.isDigit = true) (ends : StartsNoDigit rest) :
    (digits ++ rest).takeWhile Char.isDigit = digits := by
  rw [List.takeWhile_append_of_pos all]
  cases rest with
  | nil => rw [List.takeWhile_nil, List.append_nil]
  | cons c rest =>
    rw [List.takeWhile_cons_of_neg (Bool.eq_false_iff.mp (ends c rfl)), List.append_nil]

/-- What does not go on with a digit is left. -/
theorem dropWhile_digits (all : ∀ c ∈ digits, c.isDigit = true) (ends : StartsNoDigit rest) :
    (digits ++ rest).dropWhile Char.isDigit = rest := by
  rw [List.dropWhile_append_of_pos all]
  cases rest with
  | nil => rfl
  | cons c rest => rw [List.dropWhile_cons_of_neg (Bool.eq_false_iff.mp (ends c rfl))]

/-- A digit is no sign. -/
theorem splitSign_digits (all : ∀ c ∈ digits, c.isDigit = true) (nonempty : digits ≠ []) :
    splitSign (digits ++ rest) = (false, digits ++ rest) := by
  obtain ⟨first, others, rfl⟩ := List.exists_cons_of_ne_nil nonempty
  have digit := all first List.mem_cons_self
  rw [List.cons_append, splitSign]
  · rintro _ ⟨⟩
    cases digit
  · rintro _ ⟨⟩
    cases digit

/-- Digits on their own have no sign. -/
theorem splitSign_of_digits (all : ∀ c ∈ digits, c.isDigit = true) (nonempty : digits ≠ []) :
    splitSign digits = (false, digits) := by
  have taken := @splitSign_digits digits [] all nonempty
  rwa [List.append_nil] at taken

/-- A literal is made of what its parts are read as. -/
theorem Literal.ofChars?_of_parts {text whole tail fraction : List Char} {negative : Bool}
    {power : Int} (sign : splitSign text = (negative, whole ++ tail))
    (all : ∀ c ∈ whole, c.isDigit = true) (nonempty : whole ≠ [] ∨ fraction ≠ [])
    (ends : StartsNoDigit tail) (parts : fractionPart tail = (fraction, rest))
    (exponent : exponentPart? rest = some power) :
    ofChars? text =
      some ⟨negative, digitsValue (whole ++ fraction), power - fraction.length⟩ := by
  rw [ofChars?, sign]
  dsimp only
  rw [takeWhile_digits all ends, dropWhile_digits all ends, parts]
  dsimp only
  rw [if_neg (fun none => nonempty.elim (· none.1) (· none.2)), exponent]
  rfl

/-- The digits after a point are the fraction. -/
theorem fractionPart_point (all : ∀ c ∈ digits, c.isDigit = true) (ends : StartsNoDigit rest) :
    fractionPart ('.' :: (digits ++ rest)) = (digits, rest) := by
  rw [fractionPart, takeWhile_digits all ends, dropWhile_digits all ends]

/-- Digits on their own are an exponent. -/
theorem exponentValue?_of_digits {text : List Char} {negative : Bool}
    (sign : splitSign text = (negative, digits)) (all : ∀ c ∈ digits, c.isDigit = true)
    (nonempty : digits ≠ []) :
    exponentValue? text =
      some (if negative then -(digitsValue digits : Int) else digitsValue digits) := by
  rw [exponentValue?, sign]
  exact if_pos ⟨nonempty, List.all_eq_true.mpr all⟩

/-! ## Reading digits of a number -/

/-- The digits of a number are digits. -/
theorem isDigit_of_mem (number : Nat) : ∀ c ∈ Nat.toDigits 10 number, c.isDigit = true :=
  fun _ member => Nat.isDigit_of_mem_toDigits (by decide) (by decide) member

/-- They stand for the number. -/
theorem digitsValue_toDigits (number : Nat) : digitsValue (Nat.toDigits 10 number) = number :=
  Nat.ofDigitChars_ten_toDigits

/-- A zero is a digit. -/
theorem isDigit_of_mem_replicate (count : Nat) :
    ∀ c ∈ List.replicate count '0', c.isDigit = true := by
  intro c member
  rw [List.eq_of_mem_replicate member]
  rfl

/-- A power of ten is read as it was written. -/
theorem Layout.exponentPart?_exponent (layout : Layout) (power : Int) :
    exponentPart? (layout.exponent power) = some power := by
  have all := isDigit_of_mem power.natAbs
  have nonempty : Nat.toDigits 10 power.natAbs ≠ [] := Nat.toDigits_ne_nil
  have value := digitsValue_toDigits power.natAbs
  rw [exponent, integer]
  generalize Nat.toDigits 10 power.natAbs = digits at *
  have minus : splitSign ('-' :: digits) = (true, digits) := rfl
  have plus : splitSign ('+' :: digits) = (false, digits) := rfl
  have none : splitSign digits = (false, digits) := splitSign_of_digits all nonempty
  have positive (notNegative : ¬ power < 0) : (digitsValue digits : Int) = power := by
    rw [value]
    omega
  split
  next signed =>
    have notNegative : ¬ power < 0 := Int.not_lt.mpr signed.2
    rw [if_neg notNegative]
    change exponentValue? ('+' :: digits) = some power
    rw [exponentValue?_of_digits plus all nonempty, if_neg Bool.false_ne_true,
      positive notNegative]
  next unsigned =>
    split
    next negative =>
      have same : -(digitsValue digits : Int) = power := by
        rw [value]
        omega
      change exponentValue? ('-' :: digits) = some power
      rw [exponentValue?_of_digits minus all nonempty, if_pos rfl, same]
    next notNegative =>
      change exponentValue? digits = some power
      rw [exponentValue?_of_digits none all nonempty, if_neg Bool.false_ne_true,
        positive notNegative]

/-- The end of a written number: nothing, or a power of ten. -/
structure IsEnding (rest : List Char) (power : Int) : Prop where
  /-- It is read as a power of ten. -/
  power : exponentPart? rest = some power
  /-- It does not go on with a digit. -/
  noDigit : StartsNoDigit rest
  /-- Nor with a point. -/
  noPoint : fractionPart rest = ([], rest)

/-- Nothing stands for no power of ten. -/
theorem isEnding_nil : IsEnding [] 0 := ⟨rfl, nofun, rfl⟩

/-- A power of ten starts with its mark. -/
theorem Layout.isEnding_exponent (layout : Layout) (power : Int) :
    IsEnding (layout.exponent power) power := by
  have mark : ∃ rest, layout.exponent power = 'e' :: rest := by
    rw [exponent]
    split
    · exact ⟨_, rfl⟩
    · exact ⟨_, rfl⟩
  obtain ⟨rest, same⟩ := mark
  have read := layout.exponentPart?_exponent power
  rw [same] at read ⊢
  exact ⟨read, startsNoDigit_cons rfl rest, rfl⟩

namespace Literal

variable {text whole fraction : List Char} {negative : Bool} {power : Int}

/-- Digits without a point. -/
theorem ofChars?_plain (sign : splitSign text = (negative, whole ++ rest))
    (all : ∀ c ∈ whole, c.isDigit = true) (nonempty : whole ≠ []) (ending : IsEnding rest power) :
    ofChars? text = some ⟨negative, digitsValue whole, power⟩ := by
  rw [ofChars?_of_parts sign all (.inl nonempty) ending.noDigit ending.noPoint ending.power,
    List.append_nil, List.length_nil, Int.natCast_zero, Int.sub_zero]

/-- Digits with a point among them. -/
theorem ofChars?_point (sign : splitSign text = (negative, whole ++ '.' :: (fraction ++ rest)))
    (all : ∀ c ∈ whole, c.isDigit = true) (nonempty : whole ≠ [])
    (allFraction : ∀ c ∈ fraction, c.isDigit = true) (ending : IsEnding rest power) :
    ofChars? text =
      some ⟨negative, digitsValue (whole ++ fraction), power - fraction.length⟩ := by
  exact ofChars?_of_parts sign all (.inl nonempty) (startsNoDigit_cons rfl _)
    (fractionPart_point allFraction ending.noDigit) ending.power

end Literal

end Calculator.Number
