import Calculator.Json.Numeral
import Calculator.Json.Text

/-!
# Values that are passed over

A member that a reader does not know may hold any value, nested to any depth. Such a value is
passed over by keeping the lists and objects that are open around the current place, so the
depth is bounded by nothing but the text.
-/

namespace Calculator.Json

/-- A list or an object that is open. -/
inductive Frame where
  | list
  | object
  deriving DecidableEq, Repr

namespace Frame

/-- The frame that a character opens. -/
def opened? : Char → Option Frame
  | '[' => some .list
  | '\x7b' => some .object
  | _ => none

/-- The character that closes a frame. -/
def closing : Frame → Char
  | .list => ']'
  | .object => '\x7d'

/-- What is wrong when the text ends inside a frame. -/
def ended : Frame → Cause
  | .list => .endOfList
  | .object => .endOfObject

/-- What is wrong when an item is followed by something else than a comma or the end. -/
def unclosed : Frame → Cause
  | .list => .expectedListEnd
  | .object => .expectedObjectEnd

end Frame

/-- Passes over a word, a number or a string. -/
def scanScalar : List Char → Except Failure (Unit × List Char)
  | [] => .error (.within .endOfValue [])
  | c :: rest =>
    let after :=
      if c = 'n' then expectLetters ['u', 'l', 'l'] rest
      else if c = 't' then expectLetters ['r', 'u', 'e'] rest
      else if c = 'f' then expectLetters ['a', 'l', 's', 'e'] rest
      else if c = '"' then skipText rest
      else if c = '-' ∨ c.isDigit then skipNumber (c :: rest)
      else .error (.within .expectedValue (c :: rest))
    after.map ((), ·)

/-- Words, numbers and strings. -/
def scalar : Scanner Unit where
  scan := scanScalar
  shrinks := by
    intro text value rest h
    cases text with
    | nil => cases h
    | cons c text =>
      simp only [scanScalar] at h
      obtain ⟨after, found, same⟩ := ok_of_map_ok h
      cases same
      split at found
      · exact Nat.lt_succ_of_le (length_of_expectLetters found)
      split at found
      · exact Nat.lt_succ_of_le (length_of_expectLetters found)
      split at found
      · exact Nat.lt_succ_of_le (length_of_expectLetters found)
      split at found
      · exact Nat.lt_succ_of_lt (length_of_skipText found)
      split at found
      · exact length_of_skipNumber found
      · cases found

/-- Reads the colon after a key. -/
def expectColon (text : List Char) : Except Failure (List Char) :=
  match skipBlanks text with
  | [] => .error (.within .endOfObject [])
  | c :: rest => if c = ':' then .ok rest else .error (.within .expectedColon (c :: rest))

/-- A colon is read. -/
theorem length_of_expectColon {text rest : List Char} (h : expectColon text = .ok rest) :
    rest.length < text.length := by
  have shorter := length_skipBlanks_le text
  unfold expectColon at h
  split at h
  · cases h
  · rename_i c more found
    rw [found] at shorter
    split at h
    · cases h
      exact shorter
    · cases h

/-- Passes over a key and its colon. -/
def scanKey : List Char → Except Failure (Unit × List Char)
  | [] => .error (.within .endOfObject [])
  | c :: rest =>
    if c = '"' then
      ((skipText rest).bind expectColon).map ((), ·)
    else .error (.within .keyNotText (c :: rest))

/-- Keys of members that are passed over. -/
def passedKey : Scanner Unit where
  scan := scanKey
  shrinks := by
    intro text value rest h
    cases text with
    | nil => cases h
    | cons c text =>
      simp only [scanKey] at h
      split at h
      · obtain ⟨after, found, same⟩ := ok_of_map_ok h
        cases same
        cases key : skipText text with
        | error failure => simp [key, Except.bind] at found
        | ok after =>
          simp only [key, Except.bind] at found
          have first := length_of_skipText key
          have second := length_of_expectColon found
          simp only [List.length_cons]
          omega
      · cases h

mutual

/-- Passes over a value, and over all that is open around it. No blank precedes it. -/
def skipValue (frames : List Frame) (text : List Char) : Except Failure (List Char) :=
  match text with
  | [] => .error (.within .endOfValue [])
  | c :: rest =>
    match Frame.opened? c with
    | some frame => skipFirst frame frames (skipBlanks rest)
    | none =>
      match scalar.next (c :: rest) with
      | .error failure => .error failure
      | .ok ⟨(_, after), _⟩ => skipAfter frames after
termination_by (text.length, 0)
decreasing_by
  · have := length_skipBlanks_le rest
    exact Prod.Lex.left _ _ (Nat.lt_succ_of_le this)
  · exact Prod.Lex.left _ _ (by assumption)

/-- Passes over an item of a frame: a value, with its key in an object. -/
def skipItem (frame : Frame) (frames : List Frame) (text : List Char) :
    Except Failure (List Char) :=
  match frame with
  | .list => skipValue (.list :: frames) text
  | .object =>
    match passedKey.next text with
    | .error failure => .error failure
    | .ok ⟨(_, after), _⟩ => skipValue (.object :: frames) (skipBlanks after)
termination_by (text.length, 1)
decreasing_by
  · exact Prod.Lex.right _ (by decide)
  · rename_i shorter
    exact Prod.Lex.left _ _ (Nat.lt_of_le_of_lt (length_skipBlanks_le after) shorter)

/-- Passes over the items of a frame that was just opened. -/
def skipFirst (frame : Frame) (frames : List Frame) (text : List Char) :
    Except Failure (List Char) :=
  match text with
  | [] => .error (.within frame.ended [])
  | c :: rest =>
    if c = frame.closing then skipAfter frames rest else skipItem frame frames (c :: rest)
termination_by (text.length, 2)
decreasing_by
  · exact Prod.Lex.left _ _ (Nat.lt_succ_self _)
  · exact Prod.Lex.right _ (by decide)

/-- Passes over what follows an item of a frame. -/
def skipNext (frame : Frame) (frames : List Frame) (text : List Char) :
    Except Failure (List Char) :=
  match text with
  | [] => .error (.within frame.ended [])
  | c :: rest =>
    if c = ',' then skipItem frame frames (skipBlanks rest)
    else if c = frame.closing then skipAfter frames rest
    else .error (.within frame.unclosed (c :: rest))
termination_by (text.length, 2)
decreasing_by
  · have := length_skipBlanks_le rest
    exact Prod.Lex.left _ _ (Nat.lt_succ_of_le this)
  · exact Prod.Lex.left _ _ (Nat.lt_succ_self _)

/-- Passes over what follows a value in the frames that are open around it. -/
def skipAfter (frames : List Frame) (text : List Char) : Except Failure (List Char) :=
  match frames with
  | [] => .ok text
  | frame :: frames => skipNext frame frames (skipBlanks text)
termination_by (text.length, 3)
decreasing_by
  rcases Nat.lt_or_eq_of_le (length_skipBlanks_le text) with shorter | same
  · exact Prod.Lex.left _ _ shorter
  · rw [same]
    exact Prod.Lex.right _ (by decide)

end

/-- No function of this family leaves more than it was given. -/
theorem length_of_skipping :
    (∀ frames text, ∀ rest, skipValue frames text = .ok rest → rest.length ≤ text.length) ∧
    (∀ frames text, ∀ rest, skipAfter frames text = .ok rest → rest.length ≤ text.length) ∧
    (∀ frame frames text, ∀ rest,
      skipNext frame frames text = .ok rest → rest.length ≤ text.length) ∧
    (∀ frame frames text, ∀ rest,
      skipItem frame frames text = .ok rest → rest.length ≤ text.length) ∧
    (∀ frame frames text, ∀ rest,
      skipFirst frame frames text = .ok rest → rest.length ≤ text.length) := by
  apply skipValue.mutual_induct
  · intro frames rest h
    simp [skipValue] at h
  · intro frames c text frame opened ih rest h
    simp only [skipValue, opened] at h
    exact Nat.le_succ_of_le (Nat.le_trans (ih rest h) (length_skipBlanks_le text))
  · intro frames c text unopened failure found rest h
    simp [skipValue, unopened, found] at h
  · intro frames c text unopened item after shorter found ih rest h
    simp only [skipValue, unopened, found] at h
    exact Nat.le_trans (ih rest h) (Nat.le_of_lt shorter)
  · intro text rest h
    simp only [skipAfter, Except.ok.injEq] at h
    exact Nat.le_of_eq (congrArg List.length h.symm)
  · intro text frame frames ih rest h
    simp only [skipAfter] at h
    exact Nat.le_trans (ih rest h) (length_skipBlanks_le text)
  · intro frame frames rest h
    simp [skipNext] at h
  · intro frame frames text ih rest h
    simp only [skipNext, ↓reduceIte] at h
    exact Nat.le_succ_of_le (Nat.le_trans (ih rest h) (length_skipBlanks_le text))
  · intro frame frames text different ih rest h
    simp only [skipNext, different, ↓reduceIte] at h
    exact Nat.le_succ_of_le (ih rest h)
  · intro frame frames c text different unclosed rest h
    simp [skipNext, different, unclosed] at h
  · intro frames text ih rest h
    simp only [skipItem] at h
    exact ih rest h
  · intro frames text failure found rest h
    simp [skipItem, found] at h
  · intro frames text item after shorter found ih rest h
    simp only [skipItem, found] at h
    exact Nat.le_trans (ih rest h)
      (Nat.le_trans (length_skipBlanks_le after) (Nat.le_of_lt shorter))
  · intro frame frames rest h
    simp [skipFirst] at h
  · intro frame frames text ih rest h
    simp only [skipFirst, ↓reduceIte] at h
    exact Nat.le_succ_of_le (ih rest h)
  · intro frame frames c text unclosed ih rest h
    simp only [skipFirst, unclosed, ↓reduceIte] at h
    exact ih rest h

/-- What follows a value that is passed over is not longer. -/
theorem length_of_skipValue {frames : List Frame} {text rest : List Char}
    (h : skipValue frames text = .ok rest) : rest.length ≤ text.length :=
  length_of_skipping.1 frames text rest h

end Calculator.Json
