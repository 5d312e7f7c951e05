import Calculator.Number.Layout
import Calculator.Text.Blank

/-!
# Characters of written numbers

Numbers are written with digits and a few other characters, whatever the layout
(`Layout.all_chars`), and none of these is blank. A layout that keeps the point of whole numbers
shows a point or a power of ten in every finite number (`Layout.mem_magnitude`).
-/

namespace Calculator.Number

/-- Whether a character may stand in a written number. -/
def isNumeral (c : Char) : Bool :=
  c.isDigit || ['.', '-', '+', 'e', 'i', 'n', 'f', 'N', 'a'].contains c

/-- Digits may. -/
theorem all_toDigits (n : Nat) : (Nat.toDigits 10 n).all isNumeral = true := by
  refine List.all_eq_true.mpr fun c member => ?_
  rw [isNumeral, Nat.isDigit_of_mem_toDigits (by decide) (by decide) member, Bool.true_or]

/-- Zeros may. -/
theorem all_replicate_zero (count : Nat) : (List.replicate count '0').all isNumeral = true := by
  refine List.all_eq_true.mpr fun c member => ?_
  rw [List.eq_of_mem_replicate member]
  rfl

namespace Layout

variable {layout : Layout} {digits : List Char}

/-- Only zeros and a point are put around digits. -/
theorem all_positional (numerals : digits.all isNumeral = true) (position : Int) :
    (layout.positional digits position).all isNumeral = true := by
  have zeros := all_replicate_zero
  have fraction : ['.', '0'].all isNumeral = true := rfl
  have point : isNumeral '.' = true := rfl
  rw [positional]
  split
  · have start : ['0', '.'].all isNumeral = true := rfl
    change (['0', '.'] ++ List.replicate (-position).toNat '0' ++ digits).all isNumeral = true
    rw [List.all_append, List.all_append, start, zeros, numerals]
    rfl
  split
  · rw [List.all_append, List.all_append, zeros, numerals]
    split
    · exact fraction
    · rfl
  · have parts := numerals
    rw [← List.take_append_drop position.toNat digits, List.all_append, Bool.and_eq_true] at parts
    rw [List.all_append, List.all_cons, parts.1, parts.2, point]
    rfl

/-- An integer has at most a minus sign before its digits. -/
theorem all_integer (value : Int) : (integer value).all isNumeral = true := by
  rw [integer]
  split
  · rw [List.all_cons, all_toDigits]
    rfl
  · exact all_toDigits _

/-- A power of ten has its mark and perhaps a sign before it. -/
theorem all_exponent (power : Int) : (layout.exponent power).all isNumeral = true := by
  rw [exponent]
  split
  · rw [List.all_cons, List.all_cons, all_integer]
    rfl
  · rw [List.all_cons, all_integer]
    rfl

/-- Only a point is put among the digits before a power of ten. -/
theorem all_scientific (numerals : digits.all isNumeral = true) (position : Int) :
    (layout.scientific digits position).all isNumeral = true := by
  have point : isNumeral '.' = true := rfl
  have power : (layout.exponent (position - 1)).all isNumeral = true := all_exponent _
  match digits, numerals with
  | [], _ => exact power
  | [first], numerals =>
    change ([first] ++ layout.exponent (position - 1)).all isNumeral = true
    rw [List.all_append, numerals, power]
    rfl
  | first :: second :: rest, numerals =>
    rw [List.all_cons, Bool.and_eq_true] at numerals
    change (first :: '.' :: (second :: rest) ++ layout.exponent (position - 1)).all isNumeral = true
    rw [List.all_append, List.all_cons, List.all_cons, numerals.1, point, numerals.2, power]
    rfl

/-- A number is written with characters of numbers. -/
theorem all_chars (value : Float) : (layout.chars value).all isNumeral = true := by
  rw [chars]
  split
  · rfl
  · have unsigned : ∀ written : List Char, written.all isNumeral = true →
        (if isNegative value then '-' :: written else written).all isNumeral = true := by
      intro written numerals
      split
      · exact numerals
      · exact numerals
    refine unsigned _ ?_
    split
    · rfl
    · rw [magnitude]
      split
      · exact all_positional (all_toDigits _) _
      · exact all_scientific (all_toDigits _) _

/-! ## Points and powers of ten -/

/-- A point is written among or beside the digits. -/
theorem mem_positional (keeps : layout.keepsPoint = true) (digits : List Char) (position : Int) :
    '.' ∈ layout.positional digits position := by
  rw [positional]
  split
  · exact List.mem_append_left _ (List.mem_cons_of_mem _ List.mem_cons_self)
  split
  · exact List.mem_append_right _ List.mem_cons_self
  · exact List.mem_append_right _ List.mem_cons_self

/-- A power of ten has its mark. -/
theorem mem_scientific (layout : Layout) (digits : List Char) (position : Int) :
    'e' ∈ layout.scientific digits position := by
  have mark : 'e' ∈ layout.exponent (position - 1) := by
    rw [exponent]
    split
    · exact List.mem_cons_self
    · exact List.mem_cons_self
  exact List.mem_append_right _ mark

/-- A decimal is written with a point or with a power of ten. -/
theorem mem_magnitude (keeps : layout.keepsPoint = true) (decimal : Decimal) :
    '.' ∈ layout.magnitude decimal ∨ 'e' ∈ layout.magnitude decimal := by
  rw [magnitude]
  split
  · exact .inl (mem_positional keeps _ _)
  · exact .inr (mem_scientific layout _ _)

end Layout

/-- No character of a number is blank. -/
theorem isBlank_of_isNumeral {c : Char} (h : isNumeral c = true) : Text.isBlank c = false := by
  rw [isNumeral, Bool.or_eq_true] at h
  obtain digit | other := h
  · have bounds : 48 ≤ c.toNat ∧ c.toNat ≤ 57 := Char.isDigit_iff_toNat.mp digit
    simp only [Text.isBlank, Bool.or_eq_false_iff, Bool.and_eq_false_iff, decide_eq_false_iff_not,
      beq_eq_false_iff_ne]
    omega
  · have none : ['.', '-', '+', 'e', 'i', 'n', 'f', 'N', 'a'].all (!Text.isBlank ·) = true := rfl
    have solid := List.all_eq_true.mp none c (List.contains_iff_mem.mp other)
    rwa [Bool.not_eq_true'] at solid

end Calculator.Number
