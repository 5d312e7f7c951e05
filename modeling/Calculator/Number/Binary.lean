/-!
# Magnitudes of 64-bit binary numbers

The sign apart, the bits of a 64-bit number read as one natural number are its *code*.
Codes grow with the magnitudes they stand for, and every code below `infinityCode` stands
for a finite one: a significand times a power of two, counted in units of the least positive
magnitude, which is `2 ^ -1074`. `nearestCode` rounds any fraction of units to the nearest
magnitude, a tie to the even code, by exact arithmetic on natural numbers; a fraction that
is too large comes out at `infinityCode` or above.
-/

namespace Calculator.Number

/-- How many codes share an exponent; the least significand with an implicit leading bit. -/
def codesPerExponent : Nat := Nat.pow 2 52

/-- The code of infinity: all smaller codes stand for finite magnitudes. -/
def infinityCode : Nat := 2047 * codesPerExponent

/-- The sign bit, which stands above every code. -/
def signBit : Nat := Nat.pow 2 63

/-- A power of two: the number of units in one. -/
def unitsInOne : Nat := Nat.pow 2 1074

/-- A finite magnitude as a significand times a power of two, in units. -/
structure Binary where
  /-- The significand, below `2 ^ 53`. -/
  significand : Nat
  /-- The power of two, zero for the smallest magnitudes. -/
  exponent : Nat
  deriving DecidableEq, Repr

namespace Binary

/-- The magnitude of a code, the implicit leading bit included. -/
def ofCode (code : Nat) : Binary :=
  if code / codesPerExponent = 0 then ⟨code % codesPerExponent, 0⟩
  else ⟨codesPerExponent + code % codesPerExponent, code / codesPerExponent - 1⟩

/-- How many units a magnitude is. -/
def units (binary : Binary) : Nat := binary.significand * Nat.pow 2 binary.exponent

end Binary

/-- A quotient rounded to the nearest natural number, a half to the even one. -/
def roundQuotient (numerator denominator : Nat) : Nat :=
  let quotient := numerator / denominator
  let twice := 2 * (numerator % denominator)
  if twice < denominator ∨ (twice = denominator ∧ quotient % 2 = 0) then quotient
  else quotient + 1

/-- The power of two between neighbouring magnitudes at a whole number of units. -/
def gapExponent (whole : Nat) : Nat := whole.log2 - 52

/-- The code of the magnitude nearest to a fraction of units. A significand rounded up to
`2 ^ 53` carries into the exponent by the addition itself. -/
def nearestCode (numerator denominator : Nat) : Nat :=
  let exponent := gapExponent (numerator / denominator)
  exponent * codesPerExponent + roundQuotient numerator (denominator * Nat.pow 2 exponent)

/-- Whether the sign bit of a number is set. -/
def isNegative (value : Float) : Bool := signBit ≤ value.toBits.toNat

/-- The code of a number's magnitude. -/
def codeOf (value : Float) : Nat := value.toBits.toNat % signBit

/-- The number of a sign and a magnitude code. -/
def ofCode (negative : Bool) (code : Nat) : Float :=
  Float.ofBits (UInt64.ofNat (if negative then signBit + code else code))

end Calculator.Number
