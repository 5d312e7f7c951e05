import Calculator.Json.Numeral
import Calculator.Json.Text

/-!
# Values of another kind than the one due

A reader that finds a value of another kind than the one it needs reads this value, to name it
in the message; what is wrong inside the value comes before the mismatch. Lists and objects
are named without being read.
-/

namespace Calculator.Json

/-- Reads a word that starts with the given letter, for the value it stands for. -/
def readWord (found : Found) (letters rest : List Char) : Except Failure (Found × List Char) :=
  (expectLetters letters rest).map fun after => (found, after)

/-- Reads the value at the front of a text for its kind. No blank precedes it. -/
def readFound : List Char → Except Failure (Found × List Char)
  | [] => .error (.within .endOfValue [])
  | c :: rest =>
    if c = 'n' then readWord .null ['u', 'l', 'l'] rest
    else if c = 't' then readWord (.boolean true) ['r', 'u', 'e'] rest
    else if c = 'f' then readWord (.boolean false) ['a', 'l', 's', 'e'] rest
    else if c = '"' then (readText rest).map fun (value, after) => (.text value, after)
    else if c = '-' ∨ c.isDigit then readNumber (c :: rest)
    else if c = '[' then .ok (.sequence, c :: rest)
    else if c = '\x7b' then .ok (.map, c :: rest)
    else .error (.within .expectedValue (c :: rest))

/-- What is wrong with a text that does not hold the kind of value expected. -/
def mismatch (expected : String) (text : List Char) : Failure :=
  match readFound text with
  | .error failure => failure
  | .ok (found, rest) => .before (.invalidType found expected) rest

/-- Reads a string where one is due. No blank precedes it. -/
def scanString : List Char → Except Failure (List Char × List Char)
  | '"' :: rest => readText rest
  | text => .error (mismatch "a string" text)

/-- At least the quotes are read. -/
theorem length_of_scanString {text value rest : List Char}
    (h : scanString text = .ok (value, rest)) : rest.length < text.length := by
  unfold scanString at h
  split at h
  · exact Nat.lt_succ_of_lt (length_of_readText h)
  · cases h

end Calculator.Json
