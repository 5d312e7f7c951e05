import Calculator.Json.Scanner

/-!
# Strings of JSON

A string stands between double quotes. Inside, a backslash starts an escape: of a quote, a
backslash, a slash or a control by one letter, or of any character by `u` and four hex digits,
characters above U+FFFF by a pair of surrogates. Everything else stands for itself, except
controls, which have to be escaped. `writeText` escapes only what has to be escaped. A string
whose content does not matter is passed over by `skipText`, which asks less of escapes.
-/

namespace Calculator.Json

/-! ## Writing -/

/-- A character inside the quotes. -/
def writeChar (c : Char) : List Char :=
  match c with
  | '"' => ['\\', '"']
  | '\\' => ['\\', '\\']
  | '\x08' => ['\\', 'b']
  | '\t' => ['\\', 't']
  | '\n' => ['\\', 'n']
  | '\x0c' => ['\\', 'f']
  | '\r' => ['\\', 'r']
  | c =>
    if c.toNat < 0x20 then
      ['\\', 'u', '0', '0', Nat.digitChar (c.toNat / 16), Nat.digitChar (c.toNat % 16)]
    else [c]

/-- A string between quotes. -/
def writeText (text : List Char) : List Char := '"' :: text.flatMap writeChar ++ ['"']

/-! ## Escapes -/

/-- The value of a hex digit in either case. -/
def hexDigit? (c : Char) : Option Nat :=
  if c.isDigit then some (c.toNat - '0'.toNat)
  else if 'a' ≤ c ∧ c ≤ 'f' then some (c.toNat - 'a'.toNat + 10)
  else if 'A' ≤ c ∧ c ≤ 'F' then some (c.toNat - 'A'.toNat + 10)
  else none

/-- The number written by hex digits. -/
def hexValue? (digits : List Char) : Option Nat :=
  digits.foldlM (fun total c => (hexDigit? c).map (16 * total + ·)) 0

/-- Reads four hex digits. Four bytes that are none count as read; fewer than four are the
end of the text. -/
def hexQuad : List Char → Except Failure (Nat × List Char)
  | first :: second :: third :: fourth :: rest =>
    match hexValue? [first, second, third, fourth] with
    | some value => .ok (value, rest)
    | none =>
      .error ⟨.invalidEscape, Text.byteCount (first :: second :: third :: fourth :: rest) - 4⟩
  | text =>
    if Text.byteCount text < 4 then .error (.before .endOfText [])
    else .error ⟨.invalidEscape, Text.byteCount text - 4⟩

/-- Four digits are read. -/
theorem length_of_hexQuad {text rest : List Char} {value : Nat}
    (h : hexQuad text = .ok (value, rest)) : rest.length < text.length := by
  unfold hexQuad at h
  split at h
  · split at h
    · cases h
      simp only [List.length_cons]
      omega
    · cases h
  · split at h <;> cases h

/-- Whether a number is the first half of a surrogate pair. -/
def isLeadingSurrogate (value : Nat) : Bool := 0xD800 ≤ value && value ≤ 0xDBFF

/-- Whether a number is the second half of a surrogate pair. -/
def isTrailingSurrogate (value : Nat) : Bool := 0xDC00 ≤ value && value ≤ 0xDFFF

/-- The character of a surrogate pair. -/
def pairChar (leading trailing : Nat) : Char :=
  Char.ofNat ((leading - 0xD800) * 0x400 + (trailing - 0xDC00) + 0x10000)

/-- Reads the partner of a surrogate. A byte that does not belong to it counts as read. -/
def secondHalf (leading : Nat) : List Char → Except Failure (Char × List Char)
  | [] => .error (.before .endOfText [])
  | '\\' :: [] => .error (.before .endOfText [])
  | '\\' :: 'u' :: digits => do
    let (trailing, rest) ← hexQuad digits
    if isTrailingSurrogate trailing then .ok (pairChar leading trailing, rest)
    else .error (.before .loneSurrogate rest)
  | '\\' :: rest => .error (.within .missingSurrogate rest)
  | rest => .error (.within .missingSurrogate rest)

/-- Reads the number of a character after `u`. -/
def numberedChar (digits : List Char) : Except Failure (Char × List Char) := do
  let (value, rest) ← hexQuad digits
  if isTrailingSurrogate value then .error (.before .loneSurrogate rest)
  else if isLeadingSurrogate value then secondHalf value rest
  else .ok (Char.ofNat value, rest)

/-- The character that a letter stands for in an escape. -/
def escapedChar? : Char → Option Char
  | '"' => some '"'
  | '\\' => some '\\'
  | '/' => some '/'
  | 'b' => some '\x08'
  | 'f' => some '\x0c'
  | 'n' => some '\n'
  | 'r' => some '\r'
  | 't' => some '\t'
  | _ => none

/-- Reads an escape after its backslash. -/
def scanEscape : List Char → Except Failure (Char × List Char)
  | [] => .error (.before .endOfText [])
  | letter :: rest =>
    if letter = 'u' then numberedChar rest
    else
      match escapedChar? letter with
      | some c => .ok (c, rest)
      | none => .error (.within .invalidEscape (letter :: rest))

/-- Passes over an escape after its backslash, whatever number it gives. -/
def passEscape : List Char → Except Failure (Unit × List Char)
  | [] => .error (.before .endOfText [])
  | letter :: rest =>
    if letter = 'u' then (hexQuad rest).map fun (_, rest) => ((), rest)
    else if (escapedChar? letter).isSome then .ok ((), rest)
    else .error (.within .invalidEscape (letter :: rest))

/-- A partner is read. -/
theorem length_of_secondHalf {leading : Nat} {text rest : List Char} {c : Char}
    (h : secondHalf leading text = .ok (c, rest)) : rest.length < text.length := by
  unfold secondHalf at h
  split at h
  · cases h
  · cases h
  · rename_i digits
    cases quad : hexQuad digits with
    | error failure => simp [quad, bind, Except.bind] at h
    | ok found =>
      have shorter := length_of_hexQuad quad
      simp only [quad, bind, Except.bind] at h
      split at h
      · simp only [Except.ok.injEq, Prod.mk.injEq] at h
        obtain ⟨-, rfl⟩ := h
        simp only [List.length_cons]
        omega
      · cases h
  · cases h
  · cases h

/-- A number is read. -/
theorem length_of_numberedChar {text rest : List Char} {c : Char}
    (h : numberedChar text = .ok (c, rest)) : rest.length < text.length := by
  unfold numberedChar at h
  cases quad : hexQuad text with
  | error failure => simp [quad, bind, Except.bind] at h
  | ok found =>
    have shorter := length_of_hexQuad quad
    simp only [quad, bind, Except.bind] at h
    split at h
    · cases h
    · split at h
      · have second := length_of_secondHalf h
        omega
      · cases h
        exact shorter

/-- The escapes of a string that is read. -/
def escape : Scanner Char where
  scan := scanEscape
  shrinks := by
    intro text value rest h
    cases text with
    | nil => cases h
    | cons letter text =>
      simp only [scanEscape] at h
      split at h
      · exact Nat.lt_succ_of_lt (length_of_numberedChar h)
      · split at h
        · cases h
          simp
        · cases h

/-- The escapes of a string that is passed over. -/
def passedEscape : Scanner Unit where
  scan := passEscape
  shrinks := by
    intro text value rest h
    cases text with
    | nil => cases h
    | cons letter text =>
      simp only [passEscape] at h
      split at h
      · cases quad : hexQuad text with
        | error failure => simp [quad, Except.map] at h
        | ok found =>
          have shorter := length_of_hexQuad quad
          simp only [quad, Except.map, Except.ok.injEq, Prod.mk.injEq] at h
          obtain ⟨-, rfl⟩ := h
          simp only [List.length_cons]
          omega
      · split at h
        · cases h
          simp
        · cases h

/-! ## Reading -/

/-- Reads a string after its opening quote, and the quote that ends it. A control character
inside it counts as read. -/
def readText (text : List Char) : Except Failure (List Char × List Char) :=
  match text with
  | [] => .error (.before .endOfText [])
  | c :: rest =>
    if c = '"' then .ok ([], rest)
    else if c = '\\' then
      match escape.next rest with
      | .error failure => .error failure
      | .ok ⟨(value, after), _⟩ => (readText after).map fun (more, last) => (value :: more, last)
    else if c.toNat < 0x20 then .error (.within .controlCharacter text)
    else (readText rest).map fun (more, last) => (c :: more, last)
termination_by text.length
decreasing_by all_goals simp only [List.length_cons] at *; omega

/-- Passes over a string after its opening quote, and the quote that ends it. -/
def skipText (text : List Char) : Except Failure (List Char) :=
  match text with
  | [] => .error (.before .endOfText [])
  | c :: rest =>
    if c = '"' then .ok rest
    else if c = '\\' then
      match passedEscape.next rest with
      | .error failure => .error failure
      | .ok ⟨(_, after), _⟩ => skipText after
    else if c.toNat < 0x20 then .error (.before .controlCharacter text)
    else skipText rest
termination_by text.length
decreasing_by all_goals simp only [List.length_cons] at *; omega

/-- A mapped result comes from a result. -/
theorem ok_of_map_ok {α β : Type} {result : Except Failure α} {f : α → β} {value : β}
    (h : result.map f = .ok value) : ∃ source, result = .ok source ∧ f source = value := by
  cases result with
  | error failure => cases h
  | ok source => exact ⟨source, rfl, Except.ok.inj h⟩

/-- At least the ending quote is read. -/
theorem length_of_readText {text value rest : List Char}
    (h : readText text = .ok (value, rest)) : rest.length < text.length := by
  fun_induction readText text generalizing value with
  | case1 => cases h
  | case2 => cases h; exact Nat.lt_succ_self _
  | case3 => cases h
  | case4 text c after shorter =>
    rename_i ih
    obtain ⟨⟨more, last⟩, found, same⟩ := ok_of_map_ok h
    cases same
    have step : after.length < text.length := shorter
    exact Nat.lt_succ_of_lt (Nat.lt_trans (ih found) step)
  | case5 => cases h
  | case6 =>
    rename_i ih
    obtain ⟨⟨more, last⟩, found, same⟩ := ok_of_map_ok h
    cases same
    exact Nat.lt_succ_of_lt (ih found)

/-- At least the ending quote is passed over. -/
theorem length_of_skipText {text rest : List Char} (h : skipText text = .ok rest) :
    rest.length < text.length := by
  fun_induction skipText text with
  | case1 => cases h
  | case2 => cases h; exact Nat.lt_succ_self _
  | case3 => cases h
  | case4 text item after shorter =>
    rename_i ih
    have step : after.length < text.length := shorter
    exact Nat.lt_succ_of_lt (Nat.lt_trans (ih h) step)
  | case5 => cases h
  | case6 =>
    rename_i ih
    exact Nat.lt_succ_of_lt (ih h)

end Calculator.Json
