import Calculator.Number.Binary
import Mathlib

/-!
# The bits of a number

A number is packed into a word of three fields, and unpacked into its kind, sign, significand
and exponent; packing what was unpacked gives the word again. So a number is known by its sign and
the code of its magnitude (`ofCode_codeOf`), and it is finite when this code is below that of
infinity (`isFinite_iff`). Every sign and every such code are those of a number (`codeOf_ofCode`,
`isNegative_ofCode`).
-/

namespace Calculator.Number

open Float.Model (Format)
open Float.Model.UnpackedFloat

/-! ## The fields of a word -/

section

variable (bits : BitVec Format.binary64.numBits)

/-- The exponent field stands below the sign. -/
theorem toNat_unpackExponent : (unpackExponent bits).toNat = bits.toNat / 2 ^ 52 % 2 ^ 11 := by
  simp [unpackExponent, BitVec.extractLsb, Nat.shiftRight_eq_div_pow]

/-- The mantissa field is the lowest. -/
theorem toNat_unpackMantissa : (unpackMantissa bits).toNat = bits.toNat % 2 ^ 52 := by
  simp [unpackMantissa, BitVec.extractLsb]

/-- The sign field is the highest bit. -/
theorem unpackSign_ne_zero : unpackSign bits ≠ 0#1 ↔ signBit ≤ bits.toNat := by
  have bound : bits.toNat < 2 ^ 64 := bits.isLt
  have field : (unpackSign bits).toNat = bits.toNat / 2 ^ 63 % 2 := by
    simp [unpackSign, BitVec.extractLsb, Nat.shiftRight_eq_div_pow]
  have top : signBit = 2 ^ 63 := rfl
  rw [ne_eq, ← BitVec.toNat_inj, field, top, BitVec.toNat_zero]
  omega

/-- The exponent field of a word is full from the code of infinity on. -/
theorem unpackExponent_ne_full :
    unpackExponent bits ≠ -1#11 ↔ bits.toNat % signBit < infinityCode := by
  have full : (-1#11).toNat = 2047 := by decide
  rw [ne_eq, ← BitVec.toNat_inj, toNat_unpackExponent, full]
  change _ ↔ bits.toNat % 2 ^ 63 < 2047 * 2 ^ 52
  omega

end

/-- A word is finite unless its exponent field is full. -/
theorem isFinite_unpack (bits : BitVec Format.binary64.numBits) :
    (unpack .binary64 bits).isFinite = true ↔ unpackExponent bits ≠ -1#11 := by
  rw [unpack]
  dsimp only
  split
  next infinite =>
    refine iff_of_false ?_ (not_not_intro infinite)
    split <;> exact Bool.false_ne_true
  next finite =>
    refine iff_of_true ?_ finite
    split
    · split <;> rfl
    · rfl

/-- A number is known by its sign and the code of its magnitude. -/
theorem ofCode_codeOf (value : Float) : ofCode (isNegative value) (codeOf value) = value := by
  have bits : (if isNegative value then signBit + codeOf value else codeOf value) =
      value.toBits.toNat := by
    have bound : value.toBits.toNat < 2 ^ 64 := value.toBits.toBitVec.isLt
    have sign : signBit = 2 ^ 63 := rfl
    simp only [isNegative, codeOf, decide_eq_true_eq, sign]
    split <;> omega
  rw [ofCode, bits, UInt64.ofNat_toNat, Float.ofBits_toBits]

/-- The finite numbers are those with a code below infinity. -/
theorem isFinite_iff (value : Float) : value.isFinite = true ↔ codeOf value < infinityCode :=
  (isFinite_unpack value.toBits.toBitVec).trans (unpackExponent_ne_full value.toBits.toBitVec)

/-- The bits of a number end in those of its code. -/
theorem toBits_mod_two (value : Float) : value.toBits.toNat % 2 = codeOf value % 2 := by
  have sign : signBit = 2 ^ 63 := rfl
  rw [codeOf, sign]
  omega

/-! ## Numbers made from a sign and a code -/

/-- The bits of a finite number are kept as they are. -/
theorem toBits_ofBits {word : UInt64} (finite : word.toNat % signBit < infinityCode) :
    (Float.ofBits word).toBits = word := by
  have number : @isNaNBits .binary64 word.toBitVec = false :=
    decide_eq_false fun full => (unpackExponent_ne_full word.toBitVec).mpr finite full.1
  have kept := @pack_unpack .binary64 word.toBitVec
  rw [number, if_neg Bool.false_ne_true] at kept
  exact congrArg UInt64.ofBitVec (kept (by decide))

section

variable (negative : Bool) {code : Nat} (finite : code < infinityCode)

include finite

/-- A code that stands for a finite magnitude leaves the sign bit alone. -/
theorem code_lt_signBit : code < signBit := finite.trans (by decide)

/-- The sign bit is above the code. -/
theorem word_mod_signBit : (if negative then signBit + code else code) % signBit = code := by
  split
  · rw [Nat.add_mod_left, Nat.mod_eq_of_lt (code_lt_signBit finite)]
  · exact Nat.mod_eq_of_lt (code_lt_signBit finite)

/-- The bits of a number made from a sign and a code. -/
theorem toBits_ofCode :
    (ofCode negative code).toBits.toNat = if negative then signBit + code else code := by
  have word : (UInt64.ofNat (if negative then signBit + code else code)).toNat =
      if negative then signBit + code else code := by
    have sign : signBit = 2 ^ 63 := rfl
    have bound := code_lt_signBit finite
    rw [UInt64.toNat_ofNat']
    split <;> omega
  have kept := @toBits_ofBits (UInt64.ofNat (if negative then signBit + code else code))
  rw [word, word_mod_signBit negative finite] at kept
  rw [ofCode, kept finite, word]

/-- It has the code. -/
theorem codeOf_ofCode : codeOf (ofCode negative code) = code := by
  rw [codeOf, toBits_ofCode negative finite, word_mod_signBit negative finite]

/-- It has the sign. -/
theorem isNegative_ofCode : isNegative (ofCode negative code) = negative := by
  rw [isNegative, toBits_ofCode negative finite]
  cases negative with
  | false => exact decide_eq_false (code_lt_signBit finite).not_ge
  | true => exact decide_eq_true (Nat.le_add_right signBit code)

/-- It is finite. -/
theorem isFinite_ofCode : (ofCode negative code).isFinite = true := by
  rw [isFinite_iff, codeOf_ofCode negative finite]
  exact finite

end

end Calculator.Number
