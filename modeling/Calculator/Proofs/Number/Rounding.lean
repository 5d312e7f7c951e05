import Calculator.Number.Exact
import Mathlib.Data.Nat.Cast.Order.Field
import Mathlib.Order.Monotone.Basic
import Mathlib.Tactic.Linarith
import Mathlib.Tactic.NormNum
import Mathlib.Tactic.Positivity
import Mathlib.Tactic.Ring
import Mathlib.Tactic.FieldSimp

/-!
# Rounding to the nearest magnitude

The magnitudes grow with their codes, so a number is rounded to one code only
(`RoundsTo.unique`). A fraction lies between the magnitude of a code that its quotient gives and
the next one, and its remainder says on which side of their middle
(`roundsTo_nearestCode`). `Decimal.code` therefore finds the code that a decimal is rounded to
(`Decimal.code_eq_of_roundsTo`), whichever of its shortcuts it takes.
-/

namespace Calculator.Number

/-! ## Magnitudes and their codes -/

/-- There are units in one. -/
theorem unitsInOne_pos : 0 < unitsInOne := by decide +kernel

/-- Their number is a power of two. -/
theorem unitsInOne_eq : unitsInOne.log2 = 1074 ∧ unitsInOne = 2 ^ unitsInOne.log2 := by
  decide +kernel

/-- A significand and an exponent make up a code. -/
theorem Binary.ofCode_add {significand exponent : Nat} (bound : significand < 2 * codesPerExponent)
    (normal : exponent = 0 ∨ codesPerExponent ≤ significand) :
    Binary.ofCode (exponent * codesPerExponent + significand) = ⟨significand, exponent⟩ := by
  have codes : codesPerExponent = 2 ^ 52 := rfl
  rw [codes] at bound normal
  simp only [Binary.ofCode, codes]
  split <;> rw [Binary.mk.injEq] <;> omega

/-- Every code is made up so. -/
theorem Binary.exists_ofCode (code : Nat) :
    ∃ significand exponent, code = exponent * codesPerExponent + significand ∧
      significand < 2 * codesPerExponent ∧ (exponent = 0 ∨ codesPerExponent ≤ significand) := by
  have codes : codesPerExponent = 2 ^ 52 := rfl
  rw [codes]
  by_cases least : code < 2 ^ 52
  · exact ⟨code, 0, by omega⟩
  · exact ⟨2 ^ 52 + code % 2 ^ 52, code / 2 ^ 52 - 1, by omega⟩

/-- The next code has the next significand, or after the last one the least one of the next
exponent. -/
theorem Binary.ofCode_succ {significand exponent : Nat} (bound : significand < 2 * codesPerExponent)
    (normal : exponent = 0 ∨ codesPerExponent ≤ significand) :
    Binary.ofCode (exponent * codesPerExponent + significand + 1) =
      if significand + 1 < 2 * codesPerExponent then ⟨significand + 1, exponent⟩
      else ⟨codesPerExponent, exponent + 1⟩ := by
  split
  next inside =>
    rw [Nat.add_assoc]
    exact ofCode_add inside (by omega)
  next last =>
    have carry : exponent * codesPerExponent + significand + 1 =
        (exponent + 1) * codesPerExponent + codesPerExponent := by
      rw [Nat.succ_mul]
      omega
    rw [carry]
    exact ofCode_add (by decide) (.inr (Nat.le_refl _))

/-- Neighbouring magnitudes are a power of two apart. -/
theorem unitsOf_succ (code : Nat) :
    unitsOf (code + 1) = unitsOf code + Nat.pow 2 (Binary.ofCode code).exponent := by
  obtain ⟨significand, exponent, rfl, bound, normal⟩ := Binary.exists_ofCode code
  rw [unitsOf, unitsOf, Binary.ofCode_succ bound normal, Binary.ofCode_add bound normal]
  dsimp only [Binary.units]
  rw [← Nat.succ_mul]
  split
  next inside => rfl
  next last =>
    have full : significand.succ = codesPerExponent * 2 := by omega
    rw [full, Nat.mul_assoc, Nat.mul_comm 2]
    rfl

/-- Magnitudes grow with their codes. -/
theorem unitsOf_strictMono : StrictMono unitsOf :=
  strictMono_nat_of_lt_succ fun code => by
    rw [unitsOf_succ]
    exact Nat.lt_add_of_pos_right (Nat.pow_pos (by decide))

/-- A magnitude is below the middle between it and the next one. -/
theorem unitsOf_lt_midpoint (code : Nat) : (unitsOf code : ℚ) < midpoint code := by
  have step : (unitsOf code : ℚ) < unitsOf (code + 1) :=
    Nat.cast_lt.mpr (unitsOf_strictMono (Nat.lt_succ_self code))
  rw [midpoint]
  linarith

/-- The middle is below the next magnitude. -/
theorem midpoint_lt_unitsOf (code : Nat) : midpoint code < unitsOf (code + 1) := by
  have step : (unitsOf code : ℚ) < unitsOf (code + 1) :=
    Nat.cast_lt.mpr (unitsOf_strictMono (Nat.lt_succ_self code))
  rw [midpoint]
  linarith

/-- The middles grow with the codes. -/
theorem midpoint_strictMono : StrictMono midpoint :=
  strictMono_nat_of_lt_succ fun code => (midpoint_lt_unitsOf code).trans (unitsOf_lt_midpoint _)

/-! ## One code for a number -/

variable {units : ℚ} {code other : Nat}

/-- What is rounded to a code is at most the middle above it. -/
theorem RoundsTo.le (h : RoundsTo units code) : units ≤ midpoint code := by
  cases h.below with
  | inl less => exact less.le
  | inr tie => exact tie.1.le

/-- A number is not rounded to two codes: it would be halfway between them, and only one of two
neighbours is even. -/
theorem RoundsTo.not_lt (h : RoundsTo units code) (h' : RoundsTo units other) : ¬ code < other := by
  intro less
  obtain ⟨below, rfl⟩ : ∃ below, other = below + 1 := Nat.exists_eq_succ_of_ne_zero (by omega)
  have order : midpoint code ≤ midpoint below :=
    midpoint_strictMono.monotone (Nat.le_of_lt_succ less)
  obtain beyond | ⟨halfway, even⟩ := h'.above below rfl
  · exact absurd (order.trans_lt beyond) h.le.not_gt
  obtain less | ⟨same, evenToo⟩ := h.below
  · exact absurd (less.trans_le order) halfway.not_gt
  · have neighbours : code = below := midpoint_strictMono.injective (same.symm.trans halfway.symm)
    omega

/-- A number is rounded to one code only. -/
theorem RoundsTo.unique (h : RoundsTo units code) (h' : RoundsTo units other) : code = other :=
  Nat.le_antisymm (Nat.le_of_not_lt (h'.not_lt h)) (Nat.le_of_not_lt (h.not_lt h'))

/-! ## The nearest code of a fraction -/

/-- What is at a magnitude or beyond, and before the middle above it, is rounded to its code. -/
theorem roundsTo_of_le (atLeast : (unitsOf code : ℚ) ≤ units)
    (below : units < midpoint code ∨ (units = midpoint code ∧ code % 2 = 0)) :
    RoundsTo units code := by
  refine ⟨fun before same => .inl ?_, below⟩
  subst same
  exact (midpoint_lt_unitsOf before).trans_le atLeast

/-- What is before the next magnitude, and beyond the middle below it, is rounded to its code. -/
theorem roundsTo_succ_of_lt (less : units < unitsOf (code + 1))
    (above : midpoint code < units ∨ (midpoint code = units ∧ (code + 1) % 2 = 0)) :
    RoundsTo units (code + 1) := by
  refine ⟨fun before same => ?_, .inl (less.trans (unitsOf_lt_midpoint _))⟩
  rw [Nat.succ.inj same]
  exact above

/-- The quotient of a number of units by the gap at it is a significand. -/
theorem quotient_bounds (whole : Nat) :
    whole / Nat.pow 2 (gapExponent whole) < 2 * codesPerExponent ∧
      (gapExponent whole = 0 ∨ codesPerExponent ≤ whole / Nat.pow 2 (gapExponent whole)) := by
  have positive : 0 < Nat.pow 2 (gapExponent whole) := Nat.pow_pos (by decide)
  rw [Nat.div_lt_iff_lt_mul positive, Nat.le_div_iff_mul_le positive]
  have split : Nat.pow 2 52 * Nat.pow 2 (gapExponent whole) = 2 ^ (52 + gapExponent whole) :=
    (Nat.pow_add 2 52 _).symm
  have upper : whole < 2 ^ (52 + gapExponent whole + 1) :=
    Nat.lt_log2_self.trans_le (Nat.pow_le_pow_right (by decide) (by rw [gapExponent]; omega))
  rw [codesPerExponent, Nat.mul_assoc, split]
  refine ⟨by omega, ?_⟩
  by_cases none : gapExponent whole = 0
  · exact .inl none
  · have log : 52 + gapExponent whole = whole.log2 := by
      rw [gapExponent] at none ⊢
      omega
    have nonzero : whole ≠ 0 := by
      rintro rfl
      exact none rfl
    rw [log]
    exact .inr (Nat.log2_self_le nonzero)

/-- A number between two neighbouring magnitudes is rounded by what it is beyond the lower one. -/
theorem roundsTo_of_rest {gap rest denominator : Nat} (positive : 0 < denominator)
    (next : unitsOf (code + 1) = unitsOf code + gap) (bound : rest < denominator * gap) :
    RoundsTo (unitsOf code + rest / denominator)
      (if 2 * rest < denominator * gap ∨ (2 * rest = denominator * gap ∧ code % 2 = 0) then code
        else code + 1) := by
  have nonzero : (0 : ℚ) < denominator := Nat.cast_pos.mpr positive
  have difference : midpoint code - (unitsOf code + rest / denominator) =
      ((denominator * gap : Nat) - (2 * rest : Nat)) / (2 * denominator) := by
    rw [midpoint, next]
    push_cast
    field_simp
    ring
  have less : (unitsOf code + rest / denominator : ℚ) < midpoint code ↔
      2 * rest < denominator * gap := by
    rw [← sub_pos, difference, div_pos_iff_of_pos_right (by linarith), sub_pos, Nat.cast_lt]
  have same : (unitsOf code + rest / denominator : ℚ) = midpoint code ↔
      2 * rest = denominator * gap := by
    rw [eq_comm, ← sub_eq_zero, difference, div_eq_iff (by linarith), zero_mul, sub_eq_zero,
      Nat.cast_inj, eq_comm]
  split
  next near =>
    rw [← less, ← same] at near
    exact roundsTo_of_le (le_add_of_nonneg_right (by positivity)) near
  next far =>
    refine roundsTo_succ_of_lt ?_ ?_
    · rw [next, Nat.cast_add, add_lt_add_iff_left, div_lt_iff₀ nonzero, mul_comm]
      exact_mod_cast bound
    · rw [← less, ← same, not_or] at far
      rcases lt_trichotomy (unitsOf code + rest / denominator : ℚ) (midpoint code) with
        before | halfway | beyond
      · exact absurd before far.1
      · have odd : code % 2 ≠ 0 := fun even => far.2 ⟨halfway, even⟩
        exact .inr ⟨halfway.symm, by omega⟩
      · exact .inl beyond

/-- A fraction as a number of steps and a rest. -/
theorem div_eq_steps (numerator step : Nat) {denominator : Nat} (positive : 0 < denominator) :
    (numerator / denominator : ℚ) =
      (numerator / (denominator * step) * step : Nat) +
        (numerator % (denominator * step) : Nat) / denominator := by
  have nonzero : (denominator : ℚ) ≠ 0 := Nat.cast_ne_zero.mpr positive.ne'
  have whole := Nat.div_add_mod numerator (denominator * step)
  generalize numerator / (denominator * step) = quotient at *
  generalize numerator % (denominator * step) = rest at *
  subst whole
  push_cast
  field_simp

/-- A fraction of units is rounded to its nearest code. -/
theorem roundsTo_nearestCode (numerator : Nat) {denominator : Nat} (positive : 0 < denominator) :
    RoundsTo (numerator / denominator) (nearestCode numerator denominator) := by
  obtain ⟨exponent, isGap⟩ : ∃ exponent, exponent = gapExponent (numerator / denominator) :=
    ⟨_, rfl⟩
  have bounds := quotient_bounds (numerator / denominator)
  rw [← isGap, Nat.div_div_eq_div_mul] at bounds
  have restBound : numerator % (denominator * Nat.pow 2 exponent) <
      denominator * Nat.pow 2 exponent :=
    Nat.mod_lt numerator (Nat.mul_pos positive (Nat.two_pow_pos exponent))
  have steps := div_eq_steps numerator (Nat.pow 2 exponent) positive
  rw [nearestCode, ← isGap, roundQuotient, steps]
  generalize numerator / (denominator * Nat.pow 2 exponent) = quotient at *
  -- the quotient is the significand of the greatest magnitude that is not beyond the fraction
  have binary := Binary.ofCode_add bounds.1 bounds.2
  have start : unitsOf (exponent * codesPerExponent + quotient) = quotient * Nat.pow 2 exponent :=
    congrArg Binary.units binary
  have next := unitsOf_succ (exponent * codesPerExponent + quotient)
  rw [binary] at next
  have parity : (exponent * codesPerExponent + quotient) % 2 = quotient % 2 := by
    have codes : codesPerExponent = 2 ^ 52 := rfl
    rw [codes]
    omega
  have rounded := roundsTo_of_rest positive next restBound
  rw [start, parity] at rounded
  rw [add_ite, ← Nat.add_assoc]
  exact rounded

/-! ## The nearest code of a decimal -/

/-- What is below half a unit is rounded to nothing. -/
theorem roundsTo_zero (less : units < 1 / 2) : RoundsTo units 0 := by
  have half : midpoint 0 = 1 / 2 := by
    have units : unitsOf 0 = 0 ∧ unitsOf (0 + 1) = 1 := by decide
    rw [midpoint, units.1, units.2]
    norm_num
  exact ⟨fun below same => absurd same (Nat.succ_ne_zero below), .inl (half ▸ less)⟩

/-- What is rounded to a finite magnitude is before the middle between the greatest one and
infinity: the code of the greatest one is odd. -/
theorem RoundsTo.code_lt_infinity_iff (h : RoundsTo units code) :
    code < infinityCode ↔ units < midpoint (infinityCode - 1) := by
  have last : infinityCode - 1 + 1 = infinityCode ∧ (infinityCode - 1) % 2 = 1 := by decide
  constructor
  · intro finite
    obtain less | ⟨rfl, even⟩ := h.below
    · exact less.trans_le (midpoint_strictMono.monotone (by omega))
    · refine midpoint_strictMono (lt_of_le_of_ne (by omega) ?_)
      rintro rfl
      omega
  · intro small
    refine Nat.lt_of_not_le fun large => small.not_ge ?_
    obtain ⟨below, rfl⟩ : ∃ below, code = below + 1 := Nat.exists_eq_succ_of_ne_zero (by omega)
    have order : midpoint (infinityCode - 1) ≤ midpoint below :=
      midpoint_strictMono.monotone (by omega)
    obtain beyond | ⟨halfway, -⟩ := h.above below rfl
    · exact order.trans beyond.le
    · exact order.trans halfway.le

namespace Decimal

variable {decimal : Decimal}

/-- A decimal is no negative number of units. -/
theorem inUnits_nonneg (decimal : Decimal) : 0 ≤ decimal.inUnits :=
  mul_nonneg (mul_nonneg (Nat.cast_nonneg _) (zpow_nonneg (by norm_num) _)) (Nat.cast_nonneg _)

/-- A decimal with a negative power of ten is a fraction of units. -/
theorem inUnits_of_neg (negative : decimal.exponent < 0) :
    decimal.inUnits = (decimal.significand * unitsInOne : Nat) /
      (Nat.pow 10 (-decimal.exponent).toNat : Nat) := by
  have power : decimal.exponent = -((-decimal.exponent).toNat : Int) := by omega
  rw [inUnits, power, zpow_neg, zpow_natCast, Nat.pow_eq, ← power, Nat.cast_mul, Nat.cast_pow,
    Nat.cast_ofNat, div_eq_mul_inv, mul_right_comm]

/-- A decimal with another power of ten is a whole number of units. -/
theorem inUnits_of_nonneg (whole : 0 ≤ decimal.exponent) :
    decimal.inUnits =
      (decimal.significand * Nat.pow 10 decimal.exponent.toNat * unitsInOne : Nat) / (1 : Nat) := by
  have power : decimal.exponent = (decimal.exponent.toNat : Int) := by omega
  rw [inUnits, power, zpow_natCast, Nat.pow_eq, ← power, Nat.cast_mul, Nat.cast_mul, Nat.cast_pow,
    Nat.cast_ofNat, Nat.cast_one, div_one]

/-- A significand is below a power of two, and a power of ten beyond one of eight. -/
theorem inUnits_lt_of_vanishes (h : decimal.vanishes = true) : decimal.inUnits < 1 / 2 := by
  rw [vanishes, Bool.and_eq_true, decide_eq_true_eq, decide_eq_true_eq] at h
  rw [inUnits_of_neg h.1]
  obtain ⟨power, same⟩ : ∃ power, power = (-decimal.exponent).toNat := ⟨_, rfl⟩
  rw [← same, div_lt_div_iff₀ (Nat.cast_pos.mpr (Nat.pow_pos (by decide))) two_pos]
  obtain ⟨scale, units⟩ := unitsInOne_eq
  have small : decimal.significand * unitsInOne * 2 < Nat.pow 10 power := by
    calc decimal.significand * unitsInOne * 2
        < 2 ^ (decimal.significand.log2 + 1) * unitsInOne * 2 := by
          exact Nat.mul_lt_mul_of_pos_right
            (Nat.mul_lt_mul_of_pos_right Nat.lt_log2_self unitsInOne_pos) Nat.two_pos
      _ = 2 ^ (decimal.significand.log2 + 1 + unitsInOne.log2 + 1) := by
          rw [Nat.pow_succ _ (_ + unitsInOne.log2), Nat.pow_add _ _ unitsInOne.log2, ← units]
      _ ≤ 2 ^ (3 * power) := Nat.pow_le_pow_right (by decide) (by omega)
      _ ≤ Nat.pow 10 power := by
          rw [Nat.pow_mul]
          exact Nat.pow_le_pow_left (by decide) power
  rw [one_mul]
  exact_mod_cast small

/-- A power of ten beyond the greatest exponent is beyond every finite magnitude. -/
theorem infinity_le_inUnits (nonzero : decimal.significand ≠ 0)
    (large : greatestExponent < decimal.exponent) : unitsOf infinityCode ≤ decimal.inUnits := by
  have power : greatestExponent.toNat ≤ decimal.exponent.toNat := Int.toNat_le_toNat large.le
  rw [inUnits_of_nonneg (le_of_lt (lt_of_le_of_lt (by decide) large)), Nat.cast_one, div_one,
    Nat.cast_le]
  have grows : ∀ {small large : Nat}, small ≤ large → Nat.pow 10 small ≤ Nat.pow 10 large :=
    Nat.pow_le_pow_right (by decide)
  calc unitsOf infinityCode
      ≤ 1 * Nat.pow 10 greatestExponent.toNat * unitsInOne := by decide +kernel
    _ ≤ decimal.significand * Nat.pow 10 decimal.exponent.toNat * unitsInOne :=
      Nat.mul_le_mul_right _ (Nat.mul_le_mul (Nat.one_le_iff_ne_zero.mpr nonzero) (grows power))

/-- A decimal is rounded to its code, unless this was recognised as too large. -/
theorem roundsTo_code (nonzero : decimal.significand ≠ 0)
    (small : ¬ greatestExponent < decimal.exponent) :
    RoundsTo decimal.inUnits decimal.code := by
  rw [code, if_neg nonzero, if_neg small]
  split
  next vanishes => exact roundsTo_zero (inUnits_lt_of_vanishes vanishes)
  split
  next whole =>
    rw [inUnits_of_nonneg whole]
    exact roundsTo_nearestCode _ Nat.one_pos
  next negative =>
    rw [inUnits_of_neg (by omega)]
    exact roundsTo_nearestCode _ (Nat.pow_pos (by decide))

/-- A decimal whose code is finite is rounded to it. -/
theorem roundsTo_code_of_lt (finite : decimal.code < infinityCode) :
    RoundsTo decimal.inUnits decimal.code := by
  by_cases zero : decimal.significand = 0
  · have nothing : decimal.inUnits = 0 := by rw [inUnits, zero, Nat.cast_zero, zero_mul, zero_mul]
    rw [code, if_pos zero]
    exact roundsTo_zero (by rw [nothing]; norm_num)
  · refine roundsTo_code zero fun large => finite.ne ?_
    rw [code, if_neg zero, if_pos large]

/-- The code of a decimal is finite if the decimal is before the middle between the greatest
magnitude and infinity. -/
theorem code_lt_infinity_iff :
    decimal.code < infinityCode ↔ decimal.inUnits < midpoint (infinityCode - 1) := by
  refine ⟨fun finite => (roundsTo_code_of_lt finite).code_lt_infinity_iff.mp finite, ?_⟩
  intro small
  by_cases zero : decimal.significand = 0
  · rw [code, if_pos zero]
    decide
  · have notLarge : ¬ greatestExponent < decimal.exponent := fun large =>
      (infinity_le_inUnits zero large).not_gt (small.trans (midpoint_lt_unitsOf (infinityCode - 1)))
    exact (roundsTo_code zero notLarge).code_lt_infinity_iff.mpr small

/-- The code that a decimal is rounded to is found if it is finite. -/
theorem code_eq_of_roundsTo {code : Nat} (h : RoundsTo decimal.inUnits code)
    (finite : code < infinityCode) : decimal.code = code := by
  have found := code_lt_infinity_iff.mpr (h.code_lt_infinity_iff.mp finite)
  exact (roundsTo_code_of_lt found).unique h

end Decimal

end Calculator.Number
