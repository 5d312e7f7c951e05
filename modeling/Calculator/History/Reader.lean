import Calculator.History.Writer
import Calculator.Json.Mismatch
import Calculator.Json.Skip

/-!
# Reading a history

A history is a list of entries, or `null` for none, with blanks wherever JSON allows them.
An entry is an object with the members `Expression` and `Result`, each once and in either
order, and any members under other names, which are passed over; or it is a list of the two
texts. The first thing that is wrong decides the failure. A missing or repeated member is
noticed when the object is left, so its place is after what follows directly.
-/

namespace Calculator.History

open Calculator.Json (Failure Scanner skipBlanks)

/-! ## Members of an entry -/

/-- What has been read of an entry. -/
structure Fields where
  /-- The expression, once read. -/
  expression : Option (List Char)
  /-- The result, once read. -/
  result : Option (List Char)

namespace Fields

/-- Nothing read yet. -/
def empty : Fields := ⟨none, none⟩

/-- The entry of a closed object with some text after it. -/
def finish (fields : Fields) (rest : List Char) : Except Failure (Entry × List Char) :=
  match fields.expression, fields.result with
  | none, _ => .error (.before (.missingField expressionKey) rest)
  | some _, none => .error (.before (.missingField resultKey) rest)
  | some expression, some result =>
    .ok (⟨String.ofList expression, String.ofList result⟩, rest)

end Fields

/-- A repeated member, noticed once its object is left if it ends directly. -/
def duplicate (name : String) (text : List Char) : Failure :=
  match skipBlanks text with
  | '\x7d' :: rest => .before (.duplicateField name) rest
  | rest => .before (.duplicateField name) rest

/-- Reads the value of a member that an entry keeps. -/
def keepValue (keep : List Char → Fields) (text : List Char) :
    Except Failure (Fields × List Char) := do
  let rest ← Json.expectColon text
  let (value, after) ← Json.scanString (skipBlanks rest)
  .ok (keep value, after)

/-- Passes over the value of a member that an entry does not keep. -/
def dropValue (fields : Fields) (text : List Char) : Except Failure (Fields × List Char) := do
  let rest ← Json.expectColon text
  let after ← Json.skipValue [] (skipBlanks rest)
  .ok (fields, after)

/-- Reads the rest of a member after its key. -/
def scanValue (fields : Fields) (key text : List Char) : Except Failure (Fields × List Char) :=
  if key = expressionKey.toList then
    if fields.expression.isSome then .error (duplicate expressionKey text)
    else keepValue (fun value => { fields with expression := some value }) text
  else if key = resultKey.toList then
    if fields.result.isSome then .error (duplicate resultKey text)
    else keepValue (fun value => { fields with result := some value }) text
  else dropValue fields text

/-- A colon and a text are read. -/
theorem length_of_keepValue {keep : List Char → Fields} {text rest : List Char}
    {fields : Fields} (h : keepValue keep text = .ok (fields, rest)) :
    rest.length < text.length := by
  unfold keepValue at h
  cases colon : Json.expectColon text with
  | error failure => simp [colon, bind, Except.bind] at h
  | ok after =>
    have first := Json.length_of_expectColon colon
    cases value : Json.scanString (skipBlanks after) with
    | error failure => simp [colon, value, bind, Except.bind] at h
    | ok found =>
      have second := Json.length_of_scanString value
      have blanks := Json.length_skipBlanks_le after
      simp only [colon, value, bind, Except.bind, Except.ok.injEq, Prod.mk.injEq] at h
      obtain ⟨-, rfl⟩ := h
      omega

/-- A colon and a value are read. -/
theorem length_of_dropValue {fields kept : Fields} {text rest : List Char}
    (h : dropValue fields text = .ok (kept, rest)) : rest.length < text.length := by
  unfold dropValue at h
  cases colon : Json.expectColon text with
  | error failure => simp [colon, bind, Except.bind] at h
  | ok after =>
    have first := Json.length_of_expectColon colon
    cases value : Json.skipValue [] (skipBlanks after) with
    | error failure => simp [colon, value, bind, Except.bind] at h
    | ok found =>
      have second := Json.length_of_skipValue value
      have blanks := Json.length_skipBlanks_le after
      simp only [colon, value, bind, Except.bind, Except.ok.injEq, Prod.mk.injEq] at h
      obtain ⟨-, rfl⟩ := h
      omega

/-- A member is read to its end. -/
theorem length_of_scanValue {fields kept : Fields} {key text rest : List Char}
    (h : scanValue fields key text = .ok (kept, rest)) : rest.length < text.length := by
  unfold scanValue at h
  split at h
  · split at h
    · cases h
    · exact length_of_keepValue h
  · split at h
    · split at h
      · cases h
      · exact length_of_keepValue h
    · exact length_of_dropValue h

/-- Members, read from after the opening quote of their key. -/
def member (fields : Fields) : Scanner Fields where
  scan text := do
    let (key, rest) ← Json.readText text
    scanValue fields key rest
  shrinks := by
    intro text kept rest h
    cases key : Json.readText text with
    | error failure => simp [key, bind, Except.bind] at h
    | ok found =>
      have first := Json.length_of_readText key
      simp only [key, bind, Except.bind] at h
      have second := length_of_scanValue h
      omega

/-- What follows a member: the opening quote of another key, or the end of the object. -/
def scanAfterMember (text : List Char) : Except Failure (Bool × List Char) :=
  match skipBlanks text with
  | [] => .error (.within .endOfObject [])
  | c :: rest =>
    if c = '\x7d' then .ok (false, rest)
    else if c = ',' then
      match skipBlanks rest with
      | [] => .error (.within .endOfValue [])
      | '"' :: key => .ok (true, key)
      | '\x7d' :: after => .error (.within .trailingComma ('\x7d' :: after))
      | other => .error (.within .keyNotText other)
    else .error (.within .expectedObjectEnd (c :: rest))

/-- What follows a member, true for another member. -/
def afterMember : Scanner Bool where
  scan := scanAfterMember
  shrinks := by
    intro text value rest h
    have blanks := Json.length_skipBlanks_le text
    unfold scanAfterMember at h
    split at h
    · cases h
    · rename_i c more found
      rw [found] at blanks
      simp only [List.length_cons] at blanks
      split at h
      · cases h
        exact blanks
      split at h
      · have inner := Json.length_skipBlanks_le more
        split at h
        · cases h
        · rename_i key quote
          rw [quote] at inner
          simp only [List.length_cons] at inner
          cases h
          omega
        · cases h
        · cases h
      · cases h

/-- Reads members from after the opening quote of a key to the end of their object. -/
def readMembers (fields : Fields) (text : List Char) : Except Failure (Entry × List Char) :=
  match (member fields).next text with
  | .error failure => .error failure
  | .ok ⟨(fields, after), _⟩ =>
    match afterMember.next after with
    | .error failure => .error failure
    | .ok ⟨(true, rest), _⟩ => readMembers fields rest
    | .ok ⟨(false, rest), _⟩ => fields.finish rest
termination_by text.length
decreasing_by
  rename_i first second
  exact Nat.lt_trans second first

/-- Reads an object after its opening brace. -/
def readObject (text : List Char) : Except Failure (Entry × List Char) :=
  match skipBlanks text with
  | [] => .error (.within .endOfObject [])
  | '\x7d' :: rest => Fields.empty.finish rest
  | '"' :: rest => readMembers Fields.empty rest
  | other => .error (.within .keyNotText other)

/-! ## Entries as lists -/

/-- What an entry is called in messages. -/
def entryName : String := "struct Entree"

/-- A list of too few texts, which ends with some text after it. -/
def tooShort (length : Nat) (rest : List Char) : Failure :=
  .before (.invalidLength length (entryName ++ " with 2 elements")) rest

/-- Reads the first text of a list. -/
def readFirst (text : List Char) : Except Failure (List Char × List Char) :=
  match skipBlanks text with
  | [] => .error (.within .endOfList [])
  | ']' :: rest => .error (tooShort 0 rest)
  | value => Json.scanString value

/-- Reads the second text of a list. -/
def readSecond (text : List Char) : Except Failure (List Char × List Char) :=
  match skipBlanks text with
  | [] => .error (.within .endOfList [])
  | ']' :: rest => .error (tooShort 1 rest)
  | ',' :: rest =>
    match skipBlanks rest with
    | [] => .error (.within .endOfValue [])
    | ']' :: after => .error (.within .trailingComma (']' :: after))
    | value => Json.scanString value
  | other => .error (.within .expectedListEnd other)

/-- Reads the end of a list of two texts. -/
def closePair (text : List Char) : Except Failure (List Char) :=
  match skipBlanks text with
  | [] => .error (.within .endOfList [])
  | ']' :: rest => .ok rest
  | ',' :: rest =>
    match skipBlanks rest with
    | ']' :: after => .error (.within .trailingComma (']' :: after))
    | other => .error (.within .trailingCharacters other)
  | other => .error (.within .trailingCharacters other)

/-- Reads a list of two texts after its opening bracket. -/
def readPair (text : List Char) : Except Failure (Entry × List Char) := do
  let (expression, rest) ← readFirst text
  let (result, rest) ← readSecond rest
  let rest ← closePair rest
  .ok (⟨String.ofList expression, String.ofList result⟩, rest)

/-! ## The list of entries -/

/-- Reads an entry. No blank precedes it. -/
def scanEntry : List Char → Except Failure (Entry × List Char)
  | '\x7b' :: rest => readObject rest
  | '[' :: rest => readPair rest
  | text => .error (Json.mismatch entryName text)

/-- A closed object leaves its rest as it is. -/
theorem rest_of_finish {fields : Fields} {text rest : List Char} {entry : Entry}
    (h : fields.finish text = .ok (entry, rest)) : rest = text := by
  unfold Fields.finish at h
  split at h
  · cases h
  · cases h
  · simp only [Except.ok.injEq, Prod.mk.injEq] at h
    exact h.2.symm

/-- Members and the end of their object are read. -/
theorem length_of_readMembers {fields : Fields} {text rest : List Char} {entry : Entry}
    (h : readMembers fields text = .ok (entry, rest)) : rest.length < text.length := by
  fun_induction readMembers fields text with
  | case1 => cases h
  | case2 => cases h
  | case3 fields text kept after first found more second next ih =>
    exact Nat.lt_trans (ih h) (Nat.lt_trans second first)
  | case4 fields text kept after first found more second next =>
    rw [rest_of_finish h]
    exact Nat.lt_trans second first

/-- An object is read to its end. -/
theorem length_of_readObject {text rest : List Char} {entry : Entry}
    (h : readObject text = .ok (entry, rest)) : rest.length < text.length := by
  have blanks := Json.length_skipBlanks_le text
  unfold readObject at h
  split at h
  · cases h
  · rename_i after found
    rw [found] at blanks
    rw [rest_of_finish h]
    exact blanks
  · rename_i after found
    rw [found] at blanks
    exact Nat.lt_trans (length_of_readMembers h) blanks
  · cases h

/-- A first text is read. -/
theorem length_of_readFirst {text value rest : List Char}
    (h : readFirst text = .ok (value, rest)) : rest.length < text.length := by
  have blanks := Json.length_skipBlanks_le text
  unfold readFirst at h
  split at h
  · cases h
  · cases h
  · exact Nat.lt_of_lt_of_le (Json.length_of_scanString h) blanks

/-- A second text is read. -/
theorem length_of_readSecond {text value rest : List Char}
    (h : readSecond text = .ok (value, rest)) : rest.length < text.length := by
  have blanks := Json.length_skipBlanks_le text
  unfold readSecond at h
  split at h
  · cases h
  · cases h
  · rename_i after found
    rw [found] at blanks
    have inner := Json.length_skipBlanks_le after
    split at h
    · cases h
    · cases h
    · have read := Json.length_of_scanString h
      simp only [List.length_cons] at blanks
      omega
  · cases h

/-- The end of a list is read. -/
theorem length_of_closePair {text rest : List Char} (h : closePair text = .ok rest) :
    rest.length < text.length := by
  have blanks := Json.length_skipBlanks_le text
  unfold closePair at h
  split at h
  · cases h
  · rename_i after found
    rw [found] at blanks
    cases h
    exact blanks
  · split at h <;> cases h
  · cases h

/-- A list of two texts is read to its end. -/
theorem length_of_readPair {text rest : List Char} {entry : Entry}
    (h : readPair text = .ok (entry, rest)) : rest.length < text.length := by
  unfold readPair at h
  cases first : readFirst text with
  | error failure => simp [first, bind, Except.bind] at h
  | ok one =>
    cases second : readSecond one.2 with
    | error failure => simp [first, second, bind, Except.bind] at h
    | ok two =>
      cases closed : closePair two.2 with
      | error failure => simp [first, second, closed, bind, Except.bind] at h
      | ok last =>
        have shorter := length_of_readFirst first
        have shorterStill := length_of_readSecond second
        have shortest := length_of_closePair closed
        simp only [first, second, closed, bind, Except.bind, Except.ok.injEq,
          Prod.mk.injEq] at h
        obtain ⟨-, rfl⟩ := h
        omega

/-- Entries of either form. -/
def entry : Scanner Entry where
  scan := scanEntry
  shrinks := by
    intro text value rest h
    unfold scanEntry at h
    split at h
    · exact Nat.lt_succ_of_lt (length_of_readObject h)
    · exact Nat.lt_succ_of_lt (length_of_readPair h)
    · cases h

/-- What follows an entry: another entry, or the end of the list. -/
def scanAfterEntry (text : List Char) : Except Failure (Bool × List Char) :=
  match skipBlanks text with
  | [] => .error (.within .endOfList [])
  | c :: rest =>
    if c = ']' then .ok (false, rest)
    else if c = ',' then
      match skipBlanks rest with
      | [] => .error (.within .endOfValue [])
      | ']' :: after => .error (.within .trailingComma (']' :: after))
      | other => .ok (true, other)
    else .error (.within .expectedListEnd (c :: rest))

/-- What follows an entry, true for another entry. -/
def afterEntry : Scanner Bool where
  scan := scanAfterEntry
  shrinks := by
    intro text value rest h
    have blanks := Json.length_skipBlanks_le text
    unfold scanAfterEntry at h
    split at h
    · cases h
    · rename_i c more found
      rw [found] at blanks
      simp only [List.length_cons] at blanks
      split at h
      · cases h
        exact blanks
      split at h
      · have inner := Json.length_skipBlanks_le more
        split at h
        · cases h
        · cases h
        · cases h
          omega
      · cases h

/-- Reads entries from the start of one to the end of their list. -/
def readEntries (text : List Char) : Except Failure (List Entry × List Char) :=
  match entry.next text with
  | .error failure => .error failure
  | .ok ⟨(first, after), _⟩ =>
    match afterEntry.next after with
    | .error failure => .error failure
    | .ok ⟨(true, rest), _⟩ =>
      (readEntries rest).map fun (others, last) => (first :: others, last)
    | .ok ⟨(false, rest), _⟩ => .ok ([first], rest)
termination_by text.length
decreasing_by
  rename_i outer inner
  exact Nat.lt_trans inner outer

/-- Reads a list of entries after its opening bracket. -/
def readList (text : List Char) : Except Failure (List Entry × List Char) :=
  match skipBlanks text with
  | [] => .error (.within .endOfList [])
  | ']' :: rest => .ok ([], rest)
  | other => readEntries other

/-- Reads a list of entries, or `null` for the empty one. No blank precedes it. -/
def readValue : List Char → Except Failure (List Entry × List Char)
  | 'n' :: rest => (Json.expectLetters ['u', 'l', 'l'] rest).map fun after => ([], after)
  | '[' :: rest => readList rest
  | text => .error (Json.mismatch "a sequence" text)

/-- Reads a whole text as a history. -/
def read (text : List Char) : Except Failure (List Entry) := do
  let (entries, rest) ← readValue (skipBlanks text)
  if skipBlanks rest = [] then .ok entries
  else .error (.within .trailingCharacters (skipBlanks rest))

end Calculator.History
