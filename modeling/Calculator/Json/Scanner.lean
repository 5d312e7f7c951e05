import Calculator.Json.Failure

/-!
# Reading from the front of a text

A scanner reads one item from the front of a text and leaves the rest, which is shorter: this
is part of the scanner, so a loop over scanners ends with the text. The blanks of JSON, which
may stand between any two items, are the space, the tab, the line feed and the carriage
return.
-/

namespace Calculator.Json

/-- A reader of one item that always reads something. -/
structure Scanner (α : Type) where
  /-- The item at the front of a text and the rest, or what is wrong. -/
  scan : List Char → Except Failure (α × List Char)
  /-- The rest is shorter than the text. -/
  shrinks : ∀ {text : List Char} {value : α} {rest : List Char},
    scan text = .ok (value, rest) → rest.length < text.length

namespace Scanner

variable {α : Type}

/-- Reads one item, the rest being shorter by its type. -/
def next (scanner : Scanner α) (text : List Char) :
    Except Failure { item : α × List Char // item.2.length < text.length } :=
  match h : scanner.scan text with
  | .ok item => .ok ⟨item, scanner.shrinks h⟩
  | .error failure => .error failure

/-- What is read is what `scan` reads. -/
theorem next_of_scan {scanner : Scanner α} {text : List Char} {item : α × List Char}
    (h : scanner.scan text = .ok item) : scanner.next text = .ok ⟨item, scanner.shrinks h⟩ := by
  unfold next
  split
  · rename_i other found
    rw [h] at found
    cases found
    rfl
  · rename_i failure found
    rw [h] at found
    cases found

end Scanner

/-- Whether a character is a blank of JSON. -/
def isBlank (c : Char) : Bool := c == ' ' || c == '\t' || c == '\n' || c == '\r'

/-- The text from its first character that is not blank. -/
def skipBlanks (text : List Char) : List Char := text.dropWhile isBlank

/-- Skipping blanks never makes a text longer. -/
theorem length_skipBlanks_le (text : List Char) : (skipBlanks text).length ≤ text.length :=
  (List.dropWhile_sublist isBlank).length_le

/-- Reads the given letters. A wrong one counts as read. -/
def expectLetters : List Char → List Char → Except Failure (List Char)
  | [], text => .ok text
  | _ :: _, [] => .error (.before .endOfValue [])
  | letter :: letters, c :: rest =>
    if c = letter then expectLetters letters rest else .error (.within .expectedWord (c :: rest))

/-- What follows given letters is not longer than the text. -/
theorem length_of_expectLetters {letters text rest : List Char}
    (h : expectLetters letters text = .ok rest) : rest.length ≤ text.length := by
  induction letters generalizing text with
  | nil => cases h; exact Nat.le_refl _
  | cons letter letters ih =>
    cases text with
    | nil => cases h
    | cons c text =>
      simp only [expectLetters] at h
      split at h
      · exact Nat.le_succ_of_le (ih h)
      · cases h

end Calculator.Json
