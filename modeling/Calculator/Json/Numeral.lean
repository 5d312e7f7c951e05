import Calculator.Json.Scanner
import Calculator.Number.Literal

/-!
# Numbers of JSON

A number is an optional minus sign, digits without a leading zero, an optional point with
digits after it, and an optional exponent. Its value matters only where a number stands in
place of something else, and is then named in the message: a whole number that fits 64 bits
is an integer, any other a 64-bit float. A float is read from the leading digits that fit 64
bits, as one number that is multiplied or divided by a power of ten. A number whose value
does not matter is passed over whatever its size.
-/

namespace Calculator.Json

/-- Whether a text starts with a digit. -/
def startsWithDigit : List Char → Bool
  | [] => false
  | c :: _ => c.isDigit

/-- The text after its leading digits. -/
def skipDigits (text : List Char) : List Char := text.dropWhile Char.isDigit

/-- Whether a character marks an exponent. -/
def marksExponent (c : Char) : Bool := c == 'e' || c == 'E'

/-! ## Passing over a number -/

/-- Passes over an exponent after its mark. -/
def skipExponent (text : List Char) : Except Failure (List Char) :=
  let digits := (Number.splitSign text).2
  if startsWithDigit digits then .ok (skipDigits digits)
  else .error (.within .invalidNumber digits)

/-- Passes over an exponent, if there is one. -/
def skipOptionalExponent : List Char → Except Failure (List Char)
  | [] => .ok []
  | mark :: rest => if marksExponent mark then skipExponent rest else .ok (mark :: rest)

/-- Passes over what may follow the whole part of a number. -/
def skipFraction : List Char → Except Failure (List Char)
  | '.' :: rest =>
    if startsWithDigit rest then skipOptionalExponent (skipDigits rest)
    else .error (.within .invalidNumber rest)
  | rest => skipOptionalExponent rest

/-- Passes over a number after its sign. -/
def skipUnsigned : List Char → Except Failure (List Char)
  | [] => .error (.within .invalidNumber [])
  | first :: rest =>
    if first = '0' then
      if startsWithDigit rest then .error (.within .invalidNumber rest) else skipFraction rest
    else if first.isDigit then skipFraction (skipDigits rest)
    else .error (.within .invalidNumber (first :: rest))

/-- Passes over a number. -/
def skipNumber : List Char → Except Failure (List Char)
  | '-' :: rest => skipUnsigned rest
  | text => skipUnsigned text

/-- The text after its leading digits is not longer. -/
theorem length_skipDigits_le (text : List Char) : (skipDigits text).length ≤ text.length :=
  (List.dropWhile_sublist Char.isDigit).length_le

/-- The text after an optional sign is not longer. -/
theorem length_splitSign_le (text : List Char) :
    (Number.splitSign text).2.length ≤ text.length := by
  unfold Number.splitSign
  split <;> simp

/-- What follows an exponent is not longer. -/
theorem length_of_skipExponent {text rest : List Char} (h : skipExponent text = .ok rest) :
    rest.length ≤ text.length := by
  simp only [skipExponent] at h
  split at h
  · cases h
    exact Nat.le_trans (length_skipDigits_le _) (length_splitSign_le text)
  · cases h

/-- What follows an optional exponent is not longer. -/
theorem length_of_skipOptionalExponent {text rest : List Char}
    (h : skipOptionalExponent text = .ok rest) : rest.length ≤ text.length := by
  cases text with
  | nil => cases h; exact Nat.le_refl _
  | cons mark text =>
    simp only [skipOptionalExponent] at h
    split at h
    · exact Nat.le_succ_of_le (length_of_skipExponent h)
    · cases h; exact Nat.le_refl _

/-- What follows an optional fraction is not longer. -/
theorem length_of_skipFraction {text rest : List Char} (h : skipFraction text = .ok rest) :
    rest.length ≤ text.length := by
  unfold skipFraction at h
  split at h
  · rename_i digits
    split at h
    · exact Nat.le_succ_of_le
        (Nat.le_trans (length_of_skipOptionalExponent h) (length_skipDigits_le digits))
    · cases h
  · exact length_of_skipOptionalExponent h

/-- At least one digit is passed over. -/
theorem length_of_skipUnsigned {text rest : List Char} (h : skipUnsigned text = .ok rest) :
    rest.length < text.length := by
  cases text with
  | nil => cases h
  | cons first text =>
    simp only [skipUnsigned] at h
    split at h
    · split at h
      · cases h
      · exact Nat.lt_succ_of_le (length_of_skipFraction h)
    · split at h
      · exact Nat.lt_succ_of_le
          (Nat.le_trans (length_of_skipFraction h) (length_skipDigits_le text))
      · cases h

/-- At least one digit is passed over, whatever the sign. -/
theorem length_of_skipNumber {text rest : List Char} (h : skipNumber text = .ok rest) :
    rest.length < text.length := by
  unfold skipNumber at h
  split at h
  · exact Nat.lt_succ_of_lt (length_of_skipUnsigned h)
  · exact length_of_skipUnsigned h

/-! ## The value of a number -/

/-- Adds leading digits to a number while it stays below a limit, and the digits left out. -/
def gather (limit total : Nat) : List Char → Nat × List Char
  | [] => (total, [])
  | c :: rest =>
    let next := 10 * total + (c.toNat - '0'.toNat)
    if next < limit then gather limit next rest else (total, c :: rest)

/-- The greatest power of ten that a float is multiplied or divided by at once. -/
def greatestPower : Nat := 308

/-- A power of ten as a float. -/
def powerOfTen (power : Nat) : Float := Number.ofCode false (Number.Decimal.code ⟨1, power⟩)

/-- A float divided by a power of ten, in steps that are themselves floats. -/
def divideByPower (value : Float) (power : Nat) : Float :=
  if power ≤ greatestPower then value / powerOfTen power
  else if value == 0 then value
  else divideByPower (value / powerOfTen greatestPower) (power - greatestPower)
termination_by power
decreasing_by simp only [greatestPower] at *; omega

/-- The float of a significand and a power of ten, unless it is out of range. -/
def scaled? (significand : Nat) (exponent : Int) : Option Float :=
  let value := (UInt64.ofNat significand).toFloat
  if exponent < 0 then some (divideByPower value (-exponent).toNat)
  else if exponent ≤ greatestPower then
    let product := value * powerOfTen exponent.toNat
    if product.isInf then none else some product
  else if significand = 0 then some value
  else none

/-- The float that a text was read as, unless it is out of range. -/
def floatRead (negative : Bool) (significand : Nat) (exponent : Int) (rest : List Char) :
    Except Failure (Found × List Char) :=
  match scaled? significand exponent with
  | none => .error (.before .numberOutOfRange rest)
  | some value => .ok (.float (if negative then -value else value), rest)

/-- Reads an exponent after its mark, which adds to an exponent that is there already. An
exponent beyond 32 bits makes a zero or puts the number out of range at once. -/
def readExponent (negative : Bool) (significand : Nat) (start : Int) (text : List Char) :
    Except Failure (Found × List Char) :=
  let (below, digits) := Number.splitSign text
  if digits = [] then .error (.before .endOfValue [])
  else if startsWithDigit digits then
    let rest := skipDigits digits
    match gather (Nat.pow 2 31) 0 (digits.takeWhile Char.isDigit) with
    | (exponent, []) =>
      floatRead negative significand (if below then start - exponent else start + exponent) rest
    | (_, _ :: left) =>
      if significand ≠ 0 ∧ !below then .error (.before .numberOutOfRange (left ++ rest))
      else floatRead negative 0 0 rest
  else .error (.within .invalidNumber digits)

/-- Reads digits after a point, which take powers of ten back as long as they fit. -/
def readFraction (negative : Bool) (significand : Nat) (start : Int) (text : List Char) :
    Except Failure (Found × List Char) :=
  let digits := text.takeWhile Char.isDigit
  let rest := skipDigits text
  if text = [] then .error (.within .endOfValue [])
  else if digits = [] then .error (.within .invalidNumber text)
  else
    let (significand, left) := gather UInt64.size significand digits
    let exponent := start - (digits.length - left.length : Nat)
    match rest with
    | [] => floatRead negative significand exponent []
    | mark :: after =>
      if marksExponent mark then readExponent negative significand exponent after
      else floatRead negative significand exponent rest

/-- A whole number as found: an integer if it fits 64 bits with its sign. -/
def wholeFound (negative : Bool) (significand : Nat) : Found :=
  if !negative then .integer significand
  else if significand = 0 ∨ Nat.pow 2 63 < significand then
    .float (-(UInt64.ofNat significand).toFloat)
  else .integer (-significand)

/-- Reads what follows the whole part of a number. Digits of the whole part that did not fit
are powers of ten. -/
def readAfterWhole (negative : Bool) (significand dropped : Nat) (text : List Char) :
    Except Failure (Found × List Char) :=
  match text with
  | '.' :: rest => readFraction negative significand dropped rest
  | mark :: rest =>
    if marksExponent mark then readExponent negative significand dropped rest
    else if dropped = 0 then .ok (wholeFound negative significand, text)
    else floatRead negative significand dropped text
  | [] =>
    if dropped = 0 then .ok (wholeFound negative significand, [])
    else floatRead negative significand dropped []

/-- Reads a number after its sign. -/
def readUnsigned (negative : Bool) : List Char → Except Failure (Found × List Char)
  | [] => .error (.before .endOfValue [])
  | first :: rest =>
    if first = '0' then
      if startsWithDigit rest then .error (.within .invalidNumber rest)
      else readAfterWhole negative 0 0 rest
    else if first.isDigit then
      let digits := (first :: rest).takeWhile Char.isDigit
      let (significand, left) := gather UInt64.size 0 digits
      readAfterWhole negative significand left.length (skipDigits rest)
    else .error (.within .invalidNumber (first :: rest))

/-- Reads a number. -/
def readNumber : List Char → Except Failure (Found × List Char)
  | '-' :: rest => readUnsigned true rest
  | text => readUnsigned false text

end Calculator.Json
