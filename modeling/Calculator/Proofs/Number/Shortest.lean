import Calculator.Number.Shortest
import Calculator.Proofs.Number.Rounding
import Mathlib.Tactic.FieldSimp
import Mathlib.Tactic.Linarith
import Mathlib.Tactic.NormNum
import Mathlib.Tactic.Positivity
import Mathlib.Tactic.Ring

/-!
# The shortest digits read back

A decimal found in the rounding interval of a magnitude is rounded to its code
(`roundsTo_of_contains`). One of seventeen digits that is nearest to the magnitude lies in the
interval because a unit of its last digit is less than the distance to either neighbour
(`roundsTo_of_near`). So whichever rule chooses between two decimals, the shortest one is rounded
to the code that it was made for (`Decimal.roundsTo_shortest`).
-/

namespace Calculator.Number

namespace RoundingInterval

/-! ## The ends of an interval -/

/-- The ends of the interval of a magnitude are the middles to its neighbours, in quarters. -/
theorem ofBinary_succ (before : Nat) :
    ofBinary (Binary.ofCode (before + 1)) =
      { low := 2 * (unitsOf before + unitsOf (before + 1))
        middle := 4 * unitsOf (before + 1)
        high := 2 * (unitsOf (before + 1) + unitsOf (before + 1 + 1))
        denominator := 4 * unitsInOne
        closed := (before + 1) % 2 = 0 } := by
  rw [unitsOf_succ (before + 1)]
  obtain ⟨significand, exponent, rfl, bound, normal⟩ := Binary.exists_ofCode before
  rw [unitsOf, unitsOf, Binary.ofCode_succ bound normal, Binary.ofCode_add bound normal]
  have parity : (exponent * codesPerExponent + significand + 1) % 2 = (significand + 1) % 2 := by
    have codes : codesPerExponent = 2 ^ 52 := rfl
    rw [codes]
    omega
  rw [parity]
  split
  next inside =>
    have wide : ¬ (significand + 1 = codesPerExponent ∧ exponent ≠ 0) := by omega
    have step := Nat.add_one_mul significand (Nat.pow 2 exponent)
    simp only [Binary.units, ofBinary, if_neg wide, mk.injEq, and_true, true_and, Nat.mul_assoc 4]
    omega
  next last =>
    -- half as wide below the least significand of an exponent
    have narrow : codesPerExponent = codesPerExponent ∧ exponent + 1 ≠ 0 :=
      ⟨rfl, Nat.succ_ne_zero exponent⟩
    have full : significand + 1 = 2 * codesPerExponent := by omega
    have double : Nat.pow 2 (exponent + 1) = 2 * Nat.pow 2 exponent := Nat.pow_succ'
    have even : decide (codesPerExponent % 2 = 0) = decide (2 * codesPerExponent % 2 = 0) := rfl
    have start := Nat.add_one_mul significand (Nat.pow 2 exponent)
    rw [full, Nat.mul_assoc] at start
    simp only [Binary.units, ofBinary, mk.injEq, and_true, true_and, full, even, double,
      Nat.mul_assoc 4, Nat.mul_left_comm _ 2, ne_eq, Nat.succ_ne_zero, not_false_eq_true, if_true]
    omega

/-- The ends are counted in quarters of a unit. -/
theorem quarters_ofBinary (binary : Binary) : (ofBinary binary).denominator = 4 * unitsInOne := by
  simp only [ofBinary]

/-! ## Points of a grid in an interval -/

variable {interval : RoundingInterval}

/-- A point of the grid of a power of ten, in quarters of a unit and on the scale of the measured
interval. -/
theorem point_eq (quarters : interval.denominator = 4 * unitsInOne) (point : Nat)
    (power : Int) :
    ((point * (interval.measuredIn power).denominator : Nat) : ℚ) =
      4 * (Decimal.mk point power).inUnits * (Nat.pow 10 (-power).toNat : Nat) := by
  have parts : (10 : ℚ) ^ power * (Nat.pow 10 (-power).toNat : Nat) =
      (Nat.pow 10 power.toNat : Nat) := by
    rw [Nat.pow_eq, Nat.pow_eq, Nat.cast_pow, Nat.cast_pow, ← zpow_natCast, ← zpow_natCast,
      Nat.cast_ofNat, ← zpow_add₀ (by norm_num)]
    congr 1
    omega
  rw [measuredIn, quarters, Decimal.inUnits]
  push_cast
  rw [← parts]
  ring

/-- Whether a point reaches a bound does not depend on the scale. -/
theorem scaled_le_point (quarters : interval.denominator = 4 * unitsInOne) (bound point : Nat)
    (power : Int) :
    bound * Nat.pow 10 (-power).toNat ≤ point * (interval.measuredIn power).denominator ↔
      (bound : ℚ) ≤ 4 * (Decimal.mk point power).inUnits := by
  rw [← @Nat.cast_le ℚ, point_eq quarters, Nat.cast_mul]
  exact mul_le_mul_iff_left₀ (Nat.cast_pos.mpr (Nat.pow_pos (by decide)))

/-- Nor does whether it is beyond one. -/
theorem point_le_scaled (quarters : interval.denominator = 4 * unitsInOne) (bound point : Nat)
    (power : Int) :
    point * (interval.measuredIn power).denominator ≤ bound * Nat.pow 10 (-power).toNat ↔
      4 * (Decimal.mk point power).inUnits ≤ bound := by
  rw [← @Nat.cast_le ℚ, point_eq quarters, Nat.cast_mul]
  exact mul_le_mul_iff_left₀ (Nat.cast_pos.mpr (Nat.pow_pos (by decide)))

/-- An interval contains the points between its ends, and those on them if it is closed. -/
theorem contains_iff (quarters : interval.denominator = 4 * unitsInOne) (point : Nat)
    (power : Int) :
    (interval.measuredIn power).contains point = true ↔
      if interval.closed = true then
        interval.low ≤ 4 * (Decimal.mk point power).inUnits ∧
          4 * (Decimal.mk point power).inUnits ≤ interval.high
      else
        interval.low < 4 * (Decimal.mk point power).inUnits ∧
          4 * (Decimal.mk point power).inUnits < interval.high := by
  have low := scaled_le_point quarters interval.low point power
  have high := point_le_scaled quarters interval.high point power
  change (if interval.closed = true then _ else _) = true ↔ _
  split
  · rw [Bool.and_eq_true, decide_eq_true_eq, decide_eq_true_eq]
    exact and_congr low high
  · rw [Bool.and_eq_true, decide_eq_true_eq, decide_eq_true_eq]
    exact and_congr (lt_iff_lt_of_le_iff_le (point_le_scaled quarters interval.low point power))
      (lt_iff_lt_of_le_iff_le (scaled_le_point quarters interval.high point power))

/-- A point in the interval of a magnitude is rounded to its code. -/
theorem roundsTo_of_contains {before point : Nat} {power : Int}
    (h : ((ofBinary (Binary.ofCode (before + 1))).measuredIn power).contains point = true) :
    RoundsTo (Decimal.mk point power).inUnits (before + 1) := by
  have ends := ofBinary_succ before
  rw [contains_iff (quarters_ofBinary _) point power, ends] at h
  have low : ((2 * (unitsOf before + unitsOf (before + 1)) : Nat) : ℚ) = 4 * midpoint before := by
    rw [midpoint]
    push_cast
    ring
  have high : ((2 * (unitsOf (before + 1) + unitsOf (before + 1 + 1)) : Nat) : ℚ) =
      4 * midpoint (before + 1) := by
    rw [midpoint]
    push_cast
    ring
  simp only [low, high, decide_eq_true_eq, mul_le_mul_iff_right₀ (zero_lt_four' ℚ),
    mul_lt_mul_iff_right₀ (zero_lt_four' ℚ)] at h
  split at h
  next even =>
    refine ⟨fun below same => ?_, ?_⟩
    · rw [Nat.succ.inj same]
      exact h.1.lt_or_eq.imp_right fun tie => ⟨tie, even⟩
    · exact h.2.lt_or_eq.imp_right fun tie => ⟨tie, even⟩
  next odd =>
    refine ⟨fun below same => ?_, .inl h.2⟩
    rw [Nat.succ.inj same]
    exact .inl h.1

/-! ## Choosing a point -/

variable {tie : Tie}

/-- The nearest point is one of the two around the magnitude. -/
theorem nearest_eq (tie : Tie) (interval : RoundingInterval) :
    interval.nearest tie = interval.middle / interval.denominator ∨
      interval.nearest tie = interval.middle / interval.denominator + 1 := by
  rw [nearest]
  exact ite_eq_or_eq ..

/-- A point that is chosen inside lies inside. -/
theorem contains_of_nearestInside? {point : Nat} (h : interval.nearestInside? tie = some point) :
    interval.contains point = true := by
  rw [nearestInside?] at h
  split at h
  next below above =>
    cases h
    obtain same | same := nearest_eq tie interval
    · rw [same, below]
    · rw [same, above]
  next below _ =>
    cases h
    exact below
  next _ above =>
    cases h
    exact above
  next => cases h

/-- The nearest point is at most half a step away from the magnitude. -/
theorem nearest_close (tie : Tie) {interval : RoundingInterval}
    (positive : 0 < interval.denominator) :
    2 * (interval.nearest tie * interval.denominator) ≤
        2 * interval.middle + interval.denominator ∧
      2 * interval.middle ≤
        2 * (interval.nearest tie * interval.denominator) + interval.denominator := by
  have whole := Nat.div_add_mod' interval.middle interval.denominator
  have rest := Nat.mod_lt interval.middle positive
  rw [nearest]
  split
  next near => omega
  next far =>
    rw [Nat.add_one_mul (interval.middle / interval.denominator)]
    omega

/-- The nearest point of a grid is at most half its step away from the magnitude. -/
theorem nearest_inUnits (tie : Tie) (power : Int) {units : Nat}
    (quarters : interval.denominator = 4 * unitsInOne) (middle : interval.middle = 4 * units) :
    2 * units ≤ 2 * (Decimal.mk ((interval.measuredIn power).nearest tie) power).inUnits +
        (Decimal.mk 1 power).inUnits ∧
      2 * (Decimal.mk ((interval.measuredIn power).nearest tie) power).inUnits ≤
        2 * units + (Decimal.mk 1 power).inUnits := by
  have enlarged : (0 : ℚ) < (Nat.pow 10 (-power).toNat : Nat) :=
    Nat.cast_pos.mpr (Nat.pow_pos (by decide))
  have positive : 0 < (interval.measuredIn power).denominator := by
    rw [measuredIn, quarters]
    exact Nat.mul_pos (Nat.mul_pos (by decide) unitsInOne_pos) (Nat.pow_pos (by decide))
  have close := nearest_close tie positive
  have magnitude : (interval.measuredIn power).middle = 4 * units * Nat.pow 10 (-power).toNat := by
    rw [measuredIn, middle]
  have step := point_eq quarters 1 power
  have point := point_eq quarters ((interval.measuredIn power).nearest tie) power
  rw [Nat.one_mul] at step
  rw [magnitude, ← @Nat.cast_le ℚ, ← @Nat.cast_le ℚ] at close
  simp only [Nat.cast_add, Nat.cast_mul 2, Nat.cast_mul _ (Nat.pow 10 _), Nat.cast_mul 4, point,
    step, Nat.cast_ofNat] at close
  constructor
  · refine le_of_mul_le_mul_right ?_ enlarged
    linarith [close.2]
  · refine le_of_mul_le_mul_right ?_ enlarged
    linarith [close.1]

/-! ## Seventeen digits -/

/-- A positive number is at least the power of ten that has as many digits. -/
theorem pow_length_le {number : Nat} (positive : 0 < number) :
    Nat.pow 10 ((Nat.toDigits 10 number).length - 1) ≤ number := by
  by_cases single : (Nat.toDigits 10 number).length - 1 = 0
  · rw [single]
    exact positive
  · refine Nat.not_lt.mp fun less => ?_
    have short := (Nat.length_toDigits_le_iff (by decide) (Nat.pos_of_ne_zero single)).mpr less
    omega

/-- So is a number of units, counted by the digits of a multiple that is not less than one. -/
theorem pow_digits_le {units shift : Nat} (positive : 0 < units)
    (large : unitsInOne ≤ Nat.pow 10 shift) :
    (10 : ℚ) ^ (((Nat.toDigits 10 (units * Nat.pow 10 shift / unitsInOne)).length : Int) -
      shift - 1) * unitsInOne ≤ units := by
  have some : 0 < units * Nat.pow 10 shift / unitsInOne :=
    Nat.div_pos (large.trans (Nat.le_mul_of_pos_left _ positive)) unitsInOne_pos
  have length : 0 < (Nat.toDigits 10 (units * Nat.pow 10 shift / unitsInOne)).length :=
    Nat.length_toDigits_pos
  have power := (Nat.mul_le_mul_right unitsInOne (pow_length_le some)).trans
    (Nat.div_mul_le_self ..)
  generalize (Nat.toDigits 10 (units * Nat.pow 10 shift / unitsInOne)).length = digits at *
  have split : (digits : Int) - shift - 1 = ((digits - 1 : Nat) : Int) - shift := by omega
  rw [split, zpow_sub₀ (by norm_num), zpow_natCast, zpow_natCast, div_mul_eq_mul_div,
    div_le_iff₀ (by positivity)]
  exact_mod_cast power

/-- The power of ten before the position of the point is at most the magnitude. -/
theorem pow_pointPosition_le {units : Nat} (positive : 0 < units)
    (quarters : interval.denominator = 4 * unitsInOne) (middle : interval.middle = 4 * units) :
    (10 : ℚ) ^ (interval.pointPosition - 1) * unitsInOne ≤ units := by
  rw [pointPosition, quarters, middle, Nat.mul_assoc,
    Nat.mul_div_mul_left _ _ (by decide : 0 < 4)]
  exact pow_digits_le positive (by decide +kernel)

end RoundingInterval

/-- A magnitude is at most `2 ^ 53` times the distance from the one before it. -/
theorem unitsOf_le_gap (before : Nat) :
    (unitsOf (before + 1) : ℚ) ≤ 2 ^ 53 * (unitsOf (before + 1) - unitsOf before) := by
  have bound : unitsOf (before + 1) ≤
      2 ^ 53 * Nat.pow 2 (Binary.ofCode before).exponent := by
    rw [unitsOf_succ]
    obtain ⟨significand, exponent, rfl, bound, normal⟩ := Binary.exists_ofCode before
    rw [unitsOf, Binary.ofCode_add bound normal]
    dsimp only [Binary.units]
    rw [← Nat.succ_mul]
    exact Nat.mul_le_mul_right _ bound
  have step : (unitsOf (before + 1) : ℚ) - unitsOf before =
      (Nat.pow 2 (Binary.ofCode before).exponent : Nat) := by
    rw [unitsOf_succ, Nat.cast_add, add_sub_cancel_left]
  rw [step]
  exact_mod_cast bound

/-- What is half a step away from a magnitude is rounded to its code if the step is small. -/
theorem roundsTo_of_near {before : Nat} {value step : ℚ}
    (small : step * 10 ^ 16 ≤ unitsOf (before + 1))
    (low : 2 * unitsOf (before + 1) ≤ 2 * value + step)
    (high : 2 * value ≤ 2 * unitsOf (before + 1) + step) : RoundsTo value (before + 1) := by
  have spread := unitsOf_le_gap before
  have spreadAbove := unitsOf_le_gap (before + 1)
  have order : (unitsOf before : ℚ) < unitsOf (before + 1) :=
    Nat.cast_lt.mpr (unitsOf_strictMono (Nat.lt_succ_self before))
  have orderAbove : (unitsOf (before + 1) : ℚ) < unitsOf (before + 1 + 1) :=
    Nat.cast_lt.mpr (unitsOf_strictMono (Nat.lt_succ_self (before + 1)))
  refine ⟨fun below same => .inl ?_, .inl ?_⟩
  · rw [Nat.succ.inj same, midpoint]
    linarith
  · rw [midpoint]
    linarith

namespace Decimal

variable {tie : Tie} {interval : RoundingInterval} {digits before : Nat}

/-- Moving a carry to the exponent keeps the value. -/
theorem inUnits_ofDigits (positive : 0 < digits) (significand : Nat) (exponent : Int) :
    (ofDigits digits significand exponent).inUnits =
      (Decimal.mk significand exponent).inUnits := by
  rw [ofDigits]
  split
  next carry =>
    obtain ⟨fewer, rfl⟩ : ∃ fewer, digits = fewer + 1 := Nat.exists_eq_add_one.mpr positive
    rw [inUnits, inUnits, carry, zpow_add_one₀ (by norm_num)]
    dsimp only [Nat.add_sub_cancel, Nat.pow_eq]
    rw [pow_succ]
    push_cast
    ring
  next => rfl

/-- A decimal made for a magnitude is rounded to its code. -/
theorem roundsTo_of_ofInterval? {decimal : Decimal} (positive : 0 < digits)
    (h : ofInterval? tie (.ofBinary (Binary.ofCode (before + 1))) digits = some decimal) :
    RoundsTo decimal.inUnits (before + 1) := by
  rw [ofInterval?, Option.map_eq_some_iff] at h
  obtain ⟨point, chosen, rfl⟩ := h
  rw [inUnits_ofDigits positive]
  exact RoundingInterval.roundsTo_of_contains (RoundingInterval.contains_of_nearestInside? chosen)

/-- The nearest decimal of seventeen digits is rounded to the code of the magnitude. -/
theorem roundsTo_longest (tie : Tie) (before : Nat) :
    RoundsTo (longest tie (.ofBinary (Binary.ofCode (before + 1)))).inUnits (before + 1) := by
  obtain ⟨interval, isInterval⟩ : ∃ interval, interval =
      RoundingInterval.ofBinary (Binary.ofCode (before + 1)) := ⟨_, rfl⟩
  have quarters : interval.denominator = 4 * unitsInOne := by
    rw [isInterval, RoundingInterval.quarters_ofBinary]
  have middle : interval.middle = 4 * unitsOf (before + 1) := by
    rw [isInterval, RoundingInterval.ofBinary_succ]
  have someUnits : 0 < unitsOf (before + 1) :=
    (Nat.zero_le _).trans_lt (unitsOf_strictMono (Nat.lt_succ_self before))
  have small := RoundingInterval.pow_pointPosition_le someUnits quarters middle
  rw [← isInterval, longest, inUnits_ofDigits (by decide)]
  obtain ⟨power, isPower⟩ : ∃ power, power = interval.pointPosition - 17 := ⟨_, rfl⟩
  rw [← isPower]
  have close := RoundingInterval.nearest_inUnits tie power quarters middle
  refine roundsTo_of_near ?_ close.1 close.2
  have shift : interval.pointPosition - 1 = power + 16 := by omega
  rw [shift, zpow_add₀ (by norm_num)] at small
  rw [inUnits, Nat.cast_one]
  dsimp only
  linarith

/-- The shortest decimal of a magnitude is rounded to its code. -/
theorem roundsTo_shortest (tie : Tie) (code : Nat) :
    RoundsTo (shortest tie code).inUnits code := by
  cases code with
  | zero =>
    refine roundsTo_zero ?_
    rw [shortest, if_pos rfl, inUnits, Nat.cast_zero, zero_mul, zero_mul]
    norm_num
  | succ before =>
    rw [shortest, if_neg (Nat.succ_ne_zero before)]
    dsimp only
    cases found : (List.range' 1 16).findSome?
        (ofInterval? tie (.ofBinary (Binary.ofCode (before + 1)))) with
    | none =>
      rw [Option.getD_none]
      exact roundsTo_longest tie before
    | some decimal =>
      rw [Option.getD_some]
      obtain ⟨digits, member, made⟩ := List.exists_of_findSome?_eq_some found
      have positive : 0 < digits := (List.mem_range'_1.mp member).1
      exact roundsTo_of_ofInterval? positive made

end Decimal

end Calculator.Number
