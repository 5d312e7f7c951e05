import Calculator.Number.Literal
import Calculator.Number.Nearest
import Calculator.Proofs.Number.Bits
import Calculator.Proofs.Number.Rounding
import Mathlib

/-!
# Rounding gives the nearest number

The exact value of a finite number is read off its bits: it is the magnitude of its code, with its
sign (`exactValue_eq`). Units are rounded to a code by comparing them with the two neighbours of its
magnitude only, but then no finite number is nearer than the one of this code
(`isNearest_of_roundsTo`), and no other one is the nearest (`IsNearest.roundsTo`). So a literal has
a value if it is before the middle between the greatest finite number and the next power of two, and
this value is the nearest number (`Literal.value?_eq_some_iff`).
-/

namespace Calculator.Number

open Float.Model (Format)
open Float.Model.UnpackedFloat

/-! ## Signs -/

section

variable (negative : Bool) (magnitude factor : ℚ)

/-- A sign is a factor. -/
theorem signed_mul : signed negative magnitude * factor = signed negative (magnitude * factor) := by
  cases negative with
  | false => rfl
  | true => exact neg_mul magnitude factor

/-- Zero has no sign. -/
theorem signed_zero : signed negative 0 = 0 := by
  cases negative with
  | false => rfl
  | true => exact neg_zero

/-- A sign can be taken off. -/
theorem signed_injective : Function.Injective (signed negative) := by
  cases negative with
  | false => exact fun _ _ same => same
  | true => exact neg_injective

/-- Numbers of one sign are as far from each other as their magnitudes. -/
theorem abs_signed_sub (other : ℚ) :
    |signed negative magnitude - signed negative other| = |magnitude - other| := by
  cases negative with
  | false => rfl
  | true => rw [signed, signed, if_pos rfl, if_pos rfl, neg_sub_neg, abs_sub_comm]

variable {negative magnitude}

/-- Numbers of two signs are as far from each other as their magnitudes together. -/
theorem abs_signed_sub_of_ne {opposite : Bool} {other : ℚ} (different : opposite ≠ negative)
    (nonneg : 0 ≤ magnitude) (nonnegOther : 0 ≤ other) :
    |signed opposite magnitude - signed negative other| = magnitude + other := by
  have sum : 0 ≤ magnitude + other := add_nonneg nonneg nonnegOther
  cases opposite with
  | false =>
    obtain rfl : negative = true := Bool.eq_true_of_not_eq_false different.symm
    rw [signed, signed, if_neg Bool.false_ne_true, if_pos rfl, sub_neg_eq_add, abs_of_nonneg sum]
  | true =>
    obtain rfl : negative = false := Bool.eq_false_of_not_eq_true different.symm
    rw [signed, signed, if_pos rfl, if_neg Bool.false_ne_true, ← neg_add', abs_neg,
      abs_of_nonneg sum]

end

/-! ## The exact value of a number -/

/-- A sign bit is applied as a sign. -/
theorem apply_ofBitVec (bit : BitVec 1) (significand : Nat) :
    ((Sign.ofBitVec bit).apply significand : ℚ) = signed (bit ≠ 0#1) significand := by
  rw [Sign.ofBitVec]
  split
  next clear =>
    rw [signed, if_neg (by simp [clear])]
    rfl
  next set =>
    rw [signed, if_pos (by simp [set])]
    exact Int.cast_neg significand

/-- A magnitude is a significand times a power of two. -/
theorem units_div (significand exponent : Nat) :
    ((Binary.mk significand exponent).units : ℚ) / unitsInOne =
      significand * 2 ^ ((exponent : ℤ) - 1074) := by
  obtain ⟨scale, power⟩ := unitsInOne_eq
  have one : (unitsInOne : ℚ) = 2 ^ (unitsInOne.log2 : ℤ) := by
    rw [zpow_natCast]
    exact_mod_cast power
  have shift : (1074 : ℤ) = unitsInOne.log2 := by rw [scale, Nat.cast_ofNat]
  rw [shift, zpow_sub₀ two_ne_zero, ← one, Binary.units, Nat.pow_eq, Nat.cast_mul, Nat.cast_pow,
    zpow_natCast, mul_div_assoc, Nat.cast_ofNat]

section

variable {bits : BitVec Format.binary64.numBits}

/-- The code in a word is made of its exponent and its mantissa. -/
theorem ofCode_mod_signBit (bits : BitVec Format.binary64.numBits) :
    Binary.ofCode (bits.toNat % signBit) =
      if (unpackExponent bits).toNat = 0 then ⟨(unpackMantissa bits).toNat, 0⟩
      else ⟨2 ^ 52 + (unpackMantissa bits).toNat, (unpackExponent bits).toNat - 1⟩ := by
  have top : signBit = 2 ^ 63 := rfl
  have size : codesPerExponent = 2 ^ 52 := rfl
  have exponent : bits.toNat % signBit / codesPerExponent = (unpackExponent bits).toNat := by
    rw [toNat_unpackExponent, top, size]
    omega
  have mantissa : bits.toNat % signBit % codesPerExponent = (unpackMantissa bits).toNat := by
    rw [toNat_unpackMantissa, top, size]
    omega
  rw [Binary.ofCode, exponent, mantissa, size]

/-- The implicit leading bit is added to the mantissa. -/
theorem toNat_leading_append (mantissa : BitVec 52) :
    (1#1 ++ mantissa).toNat = 2 ^ 52 + mantissa.toNat := by
  have bound : mantissa.toNat < 2 ^ 52 := mantissa.isLt
  rw [BitVec.toNat_append, Nat.shiftLeft_eq, Nat.or_comm]
  exact (Nat.or_two_pow_eq_add_of_lt bound).trans (Nat.add_comm _ _)

/-- The exact value of a finite word has its sign and the magnitude of its code. -/
theorem unpackedValue_unpack (finite : unpackExponent bits ≠ -1#11) :
    unpackedValue (unpack .binary64 bits) =
      signed (signBit ≤ bits.toNat) (unitsOf (bits.toNat % signBit) / unitsInOne) := by
  have sign : decide (signBit ≤ bits.toNat) = decide (unpackSign bits ≠ 0#1) :=
    decide_eq_decide.mpr (unpackSign_ne_zero bits).symm
  rw [sign, unitsOf, ofCode_mod_signBit, unpack]
  dsimp only
  rw [if_neg finite]
  split
  next least =>
    have none : (unpackExponent bits).toNat = 0 := congrArg BitVec.toNat least
    rw [if_pos none, units_div]
    split
    next zero =>
      have nothing : (unpackMantissa bits).toNat = 0 := congrArg BitVec.toNat zero
      rw [nothing, Nat.cast_zero, zero_mul, signed_zero]
      rfl
    next some =>
      rw [unpackedValue, apply_ofBitVec, signed_mul, none]
      rfl
  next normal =>
    have some : (unpackExponent bits).toNat ≠ 0 := fun none => normal (BitVec.eq_of_toNat_eq none)
    have power : ((unpackExponent bits).toNat : ℤ) - (1023 + 52) =
        ((unpackExponent bits).toNat - 1 : Nat) - 1074 := by omega
    rw [if_neg some, units_div, unpackedValue, apply_ofBitVec, signed_mul, ← power]
    congr 3
    exact congrArg Nat.cast (toNat_leading_append (unpackMantissa bits))

end

/-- The exact value of a finite number has its sign and the magnitude of its code. -/
theorem exactValue_eq {value : Float} (finite : value.isFinite = true) :
    exactValue value = signed (isNegative value) (unitsOf (codeOf value) / unitsInOne) :=
  unpackedValue_unpack ((isFinite_unpack value.toBits.toBitVec).mp finite)

/-! ## The nearest magnitude -/

/-- The smaller one of two numbers is the nearer one up to the middle between them, and the greater
one from there on. -/
theorem abs_sub_le_of_lt {low high : ℚ} (less : low < high) (value : ℚ) :
    (|low - value| ≤ |high - value| ↔ 2 * value ≤ low + high) ∧
      (|high - value| ≤ |low - value| ↔ low + high ≤ 2 * value) := by
  have positive : 0 < high - low := sub_pos.mpr less
  have squares : (high - value) ^ 2 - (low - value) ^ 2 =
      (high - low) * (low + high - 2 * value) := by ring
  have below : 0 ≤ (high - value) ^ 2 - (low - value) ^ 2 ↔ 2 * value ≤ low + high := by
    rw [squares, mul_nonneg_iff_of_pos_left positive, sub_nonneg]
  have above : 0 ≤ (low - value) ^ 2 - (high - value) ^ 2 ↔ low + high ≤ 2 * value := by
    rw [← neg_sub, squares, ← mul_neg, neg_sub, mul_nonneg_iff_of_pos_left positive, sub_nonneg]
  exact ⟨sq_le_sq.symm.trans (sub_nonneg.symm.trans below),
    sq_le_sq.symm.trans (sub_nonneg.symm.trans above)⟩

section

variable {units : ℚ} {code other : Nat}

/-- Twice a middle is both magnitudes together. -/
theorem two_mul_midpoint (code : Nat) :
    2 * midpoint code = unitsOf code + unitsOf (code + 1) := by
  rw [midpoint, mul_div_cancel₀ _ two_ne_zero]

/-- The magnitude of a code is nearer than those of greater codes up to the middle above it. -/
theorem RoundsTo.nearest_of_lt (h : RoundsTo units code) (less : code < other) :
    |unitsOf code - units| ≤ |unitsOf other - units| ∧
      (|unitsOf other - units| = |unitsOf code - units| → code % 2 = 0) := by
  have order : (unitsOf code : ℚ) < unitsOf other := Nat.cast_lt.mpr (unitsOf_strictMono less)
  have next : (unitsOf (code + 1) : ℚ) ≤ unitsOf other :=
    Nat.cast_le.mpr (unitsOf_strictMono.monotone less)
  have middle := two_mul_midpoint code
  have sides := abs_sub_le_of_lt order units
  constructor
  · exact sides.1.mpr (by linarith [h.le])
  · intro tie
    have beyond := sides.2.mp tie.le
    obtain less | ⟨-, even⟩ := h.below
    · linarith
    · exact even

/-- It is nearer than those of smaller codes from the middle below it on. -/
theorem RoundsTo.nearest_of_gt (h : RoundsTo units code) (less : other < code) :
    |unitsOf code - units| ≤ |unitsOf other - units| ∧
      (|unitsOf other - units| = |unitsOf code - units| → code % 2 = 0) := by
  obtain ⟨below, rfl⟩ : ∃ below, code = below + 1 := Nat.exists_eq_succ_of_ne_zero (by omega)
  have order : (unitsOf other : ℚ) < unitsOf (below + 1) :=
    Nat.cast_lt.mpr (unitsOf_strictMono less)
  have before : (unitsOf other : ℚ) ≤ unitsOf below :=
    Nat.cast_le.mpr (unitsOf_strictMono.monotone (Nat.le_of_lt_succ less))
  have middle := two_mul_midpoint below
  have sides := abs_sub_le_of_lt order units
  constructor
  · refine sides.2.mpr ?_
    obtain beyond | ⟨halfway, -⟩ := h.above below rfl
    · linarith
    · linarith
  · intro tie
    have before := sides.1.mp tie.le
    obtain beyond | ⟨-, even⟩ := h.above below rfl
    · linarith
    · exact even

/-- What is rounded to a code has its magnitude nearest, and another one as near only if the code is
even. -/
theorem RoundsTo.nearest (h : RoundsTo units code) (other : Nat) :
    |unitsOf code - units| ≤ |unitsOf other - units| ∧
      (other ≠ code → |unitsOf other - units| = |unitsOf code - units| → code % 2 = 0) := by
  rcases lt_trichotomy code other with less | rfl | greater
  · exact (h.nearest_of_lt less).imp_right fun even _ => even
  · exact ⟨le_rfl, fun different => absurd rfl different⟩
  · exact (h.nearest_of_gt greater).imp_right fun even _ => even

/-- A magnitude that is as near as its two neighbours, and even if one of them is no farther, is
what units are rounded to. -/
theorem roundsTo_of_nearest
    (nearest : ∀ other, other < infinityCode →
      |unitsOf code - units| ≤ |unitsOf other - units| ∧
        (other ≠ code → |unitsOf other - units| = |unitsOf code - units| → code % 2 = 0))
    (finite : code < infinityCode) (small : units < midpoint (infinityCode - 1)) :
    RoundsTo units code := by
  constructor
  · rintro below rfl
    have order : (unitsOf below : ℚ) < unitsOf (below + 1) :=
      Nat.cast_lt.mpr (unitsOf_strictMono (Nat.lt_succ_self below))
    have middle := two_mul_midpoint below
    have sides := abs_sub_le_of_lt order units
    obtain ⟨near, even⟩ := nearest below (by omega)
    have beyond : midpoint below ≤ units := by linarith [sides.2.mp near]
    refine beyond.lt_or_eq.imp_right fun halfway => ⟨halfway, even (by omega) ?_⟩
    exact le_antisymm (sides.1.mpr (by linarith)) near
  · by_cases last : code + 1 = infinityCode
    · rw [← last, Nat.add_sub_cancel] at small
      exact .inl small
    · have order : (unitsOf code : ℚ) < unitsOf (code + 1) :=
        Nat.cast_lt.mpr (unitsOf_strictMono (Nat.lt_succ_self code))
      have middle := two_mul_midpoint code
      have sides := abs_sub_le_of_lt order units
      obtain ⟨near, even⟩ := nearest (code + 1) (by omega)
      have before : units ≤ midpoint code := by linarith [sides.1.mp near]
      refine before.lt_or_eq.imp_right fun halfway => ⟨halfway, even (by omega) ?_⟩
      exact le_antisymm (sides.2.mpr (by linarith)) near

end

/-! ## The nearest number -/

section

variable {value other : Float} {units : ℚ}

/-- Zero is the magnitude of no other code. -/
theorem unitsOf_zero : unitsOf 0 = 0 := by decide

/-- A number of the sign of an exact value is as far from it as its magnitude. -/
theorem abs_exactValue_sub (finite : value.isFinite = true) (units : ℚ) :
    |exactValue value - signed (isNegative value) (units / unitsInOne)| =
      |unitsOf (codeOf value) - units| / unitsInOne := by
  have positive : (0 : ℚ) < unitsInOne := Nat.cast_pos.mpr unitsInOne_pos
  rw [exactValue_eq finite, abs_signed_sub, ← sub_div, abs_div, abs_of_pos positive]

/-- A number of the other sign is as far from it as both magnitudes together. -/
theorem abs_exactValue_sub_of_ne {negative : Bool} (finite : value.isFinite = true)
    (nonneg : 0 ≤ units) (opposite : isNegative value ≠ negative) :
    |exactValue value - signed negative (units / unitsInOne)| =
      (unitsOf (codeOf value) + units) / unitsInOne := by
  have positive : (0 : ℚ) < unitsInOne := Nat.cast_pos.mpr unitsInOne_pos
  have whole : 0 ≤ (unitsOf (codeOf value) : ℚ) / unitsInOne :=
    div_nonneg (Nat.cast_nonneg _) positive.le
  rw [exactValue_eq finite, abs_signed_sub_of_ne opposite whole (div_nonneg nonneg positive.le),
    add_div]

/-- What is rounded to the code of a number has this number nearest, under its sign. -/
theorem isNearest_of_roundsTo (h : RoundsTo units (codeOf value)) (nonneg : 0 ≤ units)
    (finite : value.isFinite = true) :
    IsNearest (signed (isNegative value) (units / unitsInOne)) value := by
  have positive : (0 : ℚ) < unitsInOne := Nat.cast_pos.mpr unitsInOne_pos
  refine ⟨finite, fun other finiteOther => ?_, fun other finiteOther different tie => ?_⟩
  · rw [abs_exactValue_sub finite]
    by_cases same : isNegative other = isNegative value
    · rw [← same, abs_exactValue_sub finiteOther]
      exact div_le_div_of_nonneg_right (h.nearest _).1 positive.le
    · rw [abs_exactValue_sub_of_ne finiteOther nonneg same]
      refine div_le_div_of_nonneg_right ((h.nearest (codeOf other)).1.trans ?_) positive.le
      exact (abs_sub _ _).trans_eq (by rw [abs_of_nonneg nonneg, Nat.abs_cast])
  · rw [toBits_mod_two]
    rw [abs_exactValue_sub finite] at tie
    by_cases same : isNegative other = isNegative value
    · rw [← same, abs_exactValue_sub finiteOther, div_left_inj' positive.ne'] at tie
      refine (h.nearest (codeOf other)).2 (fun sameCode => different ?_) tie
      rw [exactValue_eq finite, exactValue_eq finiteOther, same, sameCode]
    · rw [abs_exactValue_sub_of_ne finiteOther nonneg same, div_left_inj' positive.ne'] at tie
      -- zero lies between the two numbers, so it is as near as they are
      obtain ⟨near, even⟩ := h.nearest 0
      have distance : |(unitsOf 0 : ℚ) - units| = units := by
        rw [unitsOf_zero, Nat.cast_zero, zero_sub, abs_neg, abs_of_nonneg nonneg]
      have zero : (unitsOf (codeOf other) : ℚ) = 0 :=
        le_antisymm (by linarith) (Nat.cast_nonneg _)
      refine even (fun sameCode => different ?_) (by linarith)
      rw [exactValue_eq finite, exactValue_eq finiteOther, zero, ← sameCode, unitsOf_zero,
        Nat.cast_zero, zero_div, signed_zero, signed_zero]

/-- The number nearest to an exact value has the code that the value is rounded to, if this code is
finite. -/
theorem IsNearest.roundsTo
    (h : IsNearest (signed (isNegative value) (units / unitsInOne)) value)
    (small : units < midpoint (infinityCode - 1)) : RoundsTo units (codeOf value) := by
  have positive : (0 : ℚ) < unitsInOne := Nat.cast_pos.mpr unitsInOne_pos
  refine roundsTo_of_nearest (fun code finite => ?_) ((isFinite_iff value).mp h.finite) small
  -- compared with the number of the same sign that has the other code
  have finiteOther := isFinite_ofCode (isNegative value) finite
  have distance := abs_exactValue_sub finiteOther units
  rw [isNegative_ofCode _ finite, codeOf_ofCode _ finite] at distance
  have near := h.nearest _ finiteOther
  have even := h.even _ finiteOther
  rw [distance, abs_exactValue_sub h.finite] at near even
  rw [toBits_mod_two, div_left_inj' positive.ne'] at even
  refine ⟨(div_le_div_iff_of_pos_right positive).mp near, fun different tie => even ?_ tie⟩
  intro same
  rw [exactValue_eq h.finite, exactValue_eq finiteOther, isNegative_ofCode _ finite,
    codeOf_ofCode _ finite] at same
  have quotient := signed_injective _ same
  rw [div_left_inj' positive.ne', Nat.cast_inj] at quotient
  exact different (unitsOf_strictMono.injective quotient)

end

/-! ## The value of a literal -/

/-- A middle as a difference of whole numbers. -/
theorem midpoint_eq {code whole part : Nat}
    (sum : unitsOf code + unitsOf (code + 1) + 2 * (part * unitsInOne) =
      2 * (whole * unitsInOne)) :
    midpoint code = (whole - part) * unitsInOne := by
  have rational : ((unitsOf code + unitsOf (code + 1) + 2 * (part * unitsInOne) : Nat) : ℚ) =
      (2 * (whole * unitsInOne) : Nat) := congrArg Nat.cast sum
  rw [Nat.cast_add, Nat.cast_add, Nat.cast_mul 2, Nat.cast_mul 2, Nat.cast_mul part,
    Nat.cast_mul whole, Nat.cast_ofNat, ← two_mul_midpoint] at rational
  linarith

/-- The middle between the greatest finite magnitude and the next power of two. -/
theorem midpoint_last : midpoint (infinityCode - 1) = (2 ^ 1024 - 2 ^ 970) * unitsInOne := by
  have powers : ∀ exponent : Nat, ((Nat.pow 2 exponent : Nat) : ℚ) = 2 ^ exponent := fun _ => by
    rw [Nat.pow_eq, Nat.cast_pow, Nat.cast_ofNat]
  rw [← powers, ← powers]
  exact midpoint_eq (by decide +kernel)

namespace Literal

variable {negative : Bool} {decimal : Decimal} {magnitude : ℚ} {value : Float}

/-- A literal has a value if it is before the middle between the greatest finite magnitude and the
next power of two. -/
theorem exists_value?_iff (units : decimal.inUnits = magnitude * unitsInOne) :
    (∃ value, value? ⟨negative, decimal⟩ = some value) ↔ magnitude < 2 ^ 1024 - 2 ^ 970 := by
  have positive : (0 : ℚ) < unitsInOne := Nat.cast_pos.mpr unitsInOne_pos
  rw [← mul_lt_mul_iff_left₀ positive, ← midpoint_last, ← units, ← Decimal.code_lt_infinity_iff]
  constructor
  · rintro ⟨value, found⟩
    exact (Option.ite_none_right_eq_some.mp found).1
  · exact fun finite => ⟨_, if_pos finite⟩

/-- The value is the number nearest to the literal, under its sign. -/
theorem value?_eq_some_iff (units : decimal.inUnits = magnitude * unitsInOne) :
    value? ⟨negative, decimal⟩ = some value ↔
      magnitude < 2 ^ 1024 - 2 ^ 970 ∧ IsNearest (signed negative magnitude) value ∧
        isNegative value = negative := by
  have positive : (0 : ℚ) < unitsInOne := Nat.cast_pos.mpr unitsInOne_pos
  have exact : magnitude = decimal.inUnits / unitsInOne := by
    rw [units, mul_div_cancel_right₀ _ positive.ne']
  rw [← mul_lt_mul_iff_left₀ positive, ← midpoint_last, ← units, exact, value?,
    Option.ite_none_right_eq_some, Option.some.injEq, Decimal.code_lt_infinity_iff]
  refine and_congr_right fun small => ?_
  have finite := Decimal.code_lt_infinity_iff.mpr small
  constructor
  · rintro rfl
    have sign := isNegative_ofCode negative finite
    have rounded := Decimal.roundsTo_code_of_lt finite
    rw [← codeOf_ofCode negative finite] at rounded
    have near := isNearest_of_roundsTo rounded decimal.inUnits_nonneg
      (isFinite_ofCode negative finite)
    rw [sign] at near
    exact ⟨near, sign⟩
  · rintro ⟨near, rfl⟩
    have code : decimal.code = codeOf value :=
      Decimal.code_eq_of_roundsTo (near.roundsTo small) ((isFinite_iff value).mp near.finite)
    rw [code, ofCode_codeOf]

end Literal

end Calculator.Number
