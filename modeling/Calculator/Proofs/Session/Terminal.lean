import Calculator.Session.Terminal

/-!
# What a fault of a terminal does

An operation of a terminal that meets no fault does what it does without any faults ahead. One
that meets a fault has written and read no more than it does without them
(`Terminal.truncates_write`, `Terminal.truncates_flush`, `Terminal.truncates_readLine`). Bytes
that follow a complete line have no part in reading it (`Terminal.readLine_continued`).
-/

namespace Calculator.Terminal

variable {α : Type}

/-! ## Reading a line -/

/-- What the bytes of a line are read as; no bytes are the end of the input. -/
def lineOf (line : List UInt8) : Except TerminalFault (Option String) :=
  if line = [] then .ok none
  else
    match Text.decode? line with
    | none => .error .notText
    | some text => .ok (some text)

/-- Reading takes the first line and changes nothing else, whatever the line is read as. -/
theorem readLine_eq (terminal : Terminal) :
    terminal.readLine =
      (if terminal.inputFails ∧ (splitLine terminal.unread).1.getLast? ≠ some lineFeed then
          .error .inputFailed
        else lineOf (splitLine terminal.unread).1,
        { terminal with unread := (splitLine terminal.unread).2 }) := by
  unfold readLine lineOf
  dsimp only
  split
  · rfl
  split
  · rfl
  cases Text.decode? (splitLine terminal.unread).1 <;> rfl

/-! ## Order -/

/-- A terminal that has written and read no more than a later one. -/
structure Precedes (earlier later : Terminal) : Prop where
  /-- What was written is the beginning of what is written later. -/
  written : earlier.written <+: later.written
  /-- What is left to read ends in what is left later. -/
  unread : later.unread <:+ earlier.unread

/-- Every terminal has done what it has done. -/
theorem Precedes.refl (terminal : Terminal) : terminal.Precedes terminal :=
  ⟨List.prefix_refl _, List.suffix_refl _⟩

/-- What a terminal has done stays done. -/
theorem Precedes.trans {first second third : Terminal} (once : first.Precedes second)
    (again : second.Precedes third) : first.Precedes third :=
  ⟨once.written.trans again.written, again.unread.trans once.unread⟩

/-- Writing adds to what was written. -/
theorem precedes_write (terminal : Terminal) (text : String) :
    terminal.Precedes (terminal.write text).2 := by
  refine ⟨?_, terminal.unread_write text ▸ List.suffix_refl _⟩
  unfold write
  cases terminal.room <;> exact List.prefix_append _ _

/-- Flushing neither writes nor reads. -/
theorem precedes_flush (terminal : Terminal) : terminal.Precedes terminal.flush.2 :=
  ⟨List.prefix_refl _, List.suffix_refl _⟩

/-- Reading takes from what was left to read. -/
theorem precedes_readLine (terminal : Terminal) : terminal.Precedes terminal.readLine.2 := by
  rw [readLine_eq]
  exact ⟨List.prefix_refl _, _, splitLine_append terminal.unread⟩

/-! ## Faults -/

/-- A terminal with none of its faults ahead. -/
def withoutFaults (terminal : Terminal) : Terminal :=
  { terminal with inputFails := false, room := none, failingFlush := none }

/-- How an operation ends on a terminal, and how it ends without the faults ahead. -/
inductive Truncates (result whole : Except TerminalFault α × Terminal) : Prop where
  /-- In the same way. -/
  | same (alike : whole = (result.1, result.2.withoutFaults))
  /-- In a fault, after no more than is done without it. -/
  | cut {fault : TerminalFault} (failed : result.1 = .error fault)
      (precedes : result.2.Precedes whole.2)

/-- A fault cuts a text short. -/
theorem truncates_write (terminal : Terminal) (text : String) :
    Truncates (terminal.write text) (terminal.withoutFaults.write text) := by
  obtain ⟨unread, inputFails, written, room, flushes, failingFlush⟩ := terminal
  cases room with
  | none => exact .same rfl
  | some room =>
    by_cases fits : (Text.encode text).length ≤ room
    · refine .same ?_
      simp [write, withoutFaults, fits, List.take_of_length_le fits]
    · have failed : (write ⟨unread, inputFails, written, some room, flushes, failingFlush⟩ text).1 =
          .error .outputFull := if_neg fits
      refine .cut failed ⟨?_, List.suffix_refl _⟩
      exact (List.prefix_append_right_inj written).mpr (List.take_prefix room _)

/-- A fault makes a flush fail. -/
theorem truncates_flush (terminal : Terminal) :
    Truncates terminal.flush terminal.withoutFaults.flush := by
  by_cases fails : terminal.failingFlush = some (terminal.flushes + 1)
  · exact .cut (if_pos fails) ⟨List.prefix_refl _, List.suffix_refl _⟩
  · refine .same ?_
    simp [flush, withoutFaults, fails]

/-- A fault makes the end of the input fail, be it after a line that lacks its line feed. -/
theorem truncates_readLine (terminal : Terminal) :
    Truncates terminal.readLine terminal.withoutFaults.readLine := by
  have whole : terminal.withoutFaults.readLine =
      (lineOf (splitLine terminal.unread).1,
        { terminal.withoutFaults with unread := (splitLine terminal.unread).2 }) := by
    rw [readLine_eq, if_neg (by simp [withoutFaults])]
    rfl
  rw [whole, readLine_eq]
  by_cases fails : terminal.inputFails ∧ (splitLine terminal.unread).1.getLast? ≠ some lineFeed
  · rw [if_pos fails]
    exact .cut rfl ⟨List.prefix_refl _, List.suffix_refl _⟩
  · rw [if_neg fails]
    exact .same rfl

/-! ## Lines -/

/-- Bytes that are lines with their line feeds. -/
def Complete (bytes : List UInt8) : Prop := bytes = [] ∨ bytes.getLast? = some lineFeed

/-- Bytes that are the first line before others: a line feed ends it, or nothing comes after it. -/
structure IsLine (line rest : List UInt8) : Prop where
  /-- There is no line feed before the last byte. -/
  single : lineFeed ∉ line.dropLast
  /-- The last byte is a line feed, or the last one of all. -/
  ended : line.getLast? = some lineFeed ∨ rest = []

/-- The first line is split off before what comes after it. -/
theorem splitLine_of_isLine {line rest : List UInt8} (h : IsLine line rest) :
    splitLine (line ++ rest) = (line, rest) := by
  induction line with
  | nil =>
    obtain ended | rfl := h.ended
    · cases ended
    · rfl
  | cons byte line ih =>
    cases line with
    | nil =>
      obtain ended | rfl := h.ended
      · obtain rfl : byte = lineFeed := by simpa using ended
        simp [splitLine]
      · by_cases feed : byte = lineFeed <;> simp [splitLine, feed]
    | cons next line =>
      have apart := h.single
      rw [List.dropLast_cons_cons, List.mem_cons, not_or] at apart
      have others : IsLine (next :: line) rest := ⟨apart.2, by simpa using h.ended⟩
      have other : byte ≠ lineFeed := fun same => apart.1 same.symm
      rw [List.cons_append, splitLine, if_neg other, ih others]

/-- The first of several lines is split off alike when more bytes follow them. -/
theorem splitLine_append_of_mem {bytes : List UInt8} (h : lineFeed ∈ bytes) (more : List UInt8) :
    splitLine (bytes ++ more) = ((splitLine bytes).1, (splitLine bytes).2 ++ more) := by
  induction bytes with
  | nil => cases h
  | cons byte bytes ih =>
    by_cases feed : byte = lineFeed
    · simp [splitLine, feed]
    · have later := List.mem_of_ne_of_mem (Ne.symm feed) h
      rw [List.cons_append, splitLine, if_neg feed, ih later, splitLine, if_neg feed]

/-- A first line that a line feed ends ends in it. -/
theorem getLast?_splitLine {bytes : List UInt8} (h : lineFeed ∈ bytes) :
    (splitLine bytes).1.getLast? = some lineFeed := by
  induction bytes with
  | nil => cases h
  | cons byte bytes ih =>
    by_cases feed : byte = lineFeed
    · simp [splitLine, feed]
    · have last := ih (List.mem_of_ne_of_mem (Ne.symm feed) h)
      simp [splitLine, feed, List.getLast?_cons, last]

/-- Complete lines have a line feed, unless there are none. -/
theorem Complete.mem {bytes : List UInt8} (h : Complete bytes) (some : bytes ≠ []) :
    lineFeed ∈ bytes := by
  rcases h with rfl | ended
  · exact absurd rfl some
  · exact List.mem_of_getLast? ended

/-- Complete lines without the first one are complete lines. -/
theorem Complete.splitLine {bytes : List UInt8} (h : Complete bytes) :
    Complete (splitLine bytes).2 := by
  cases rest : (Terminal.splitLine bytes).2 with
  | nil => exact .inl rfl
  | cons byte others =>
    have parts := splitLine_append bytes
    rw [rest] at parts
    rcases h with rfl | ended
    · simp at parts
    · rw [← parts, List.getLast?_append, List.getLast?_cons, Option.some_or] at ended
      exact .inr (List.getLast?_cons.trans ended)

/-! ## More bytes to read -/

/-- A terminal with more bytes to read. -/
def continued (terminal : Terminal) (inputFails : Bool) (more : List UInt8) : Terminal :=
  { terminal with unread := terminal.unread ++ more, inputFails }

variable (terminal : Terminal) (inputFails : Bool) (more : List UInt8)

/-- More bytes to read make no difference to writing. -/
theorem write_continued (text : String) :
    (terminal.continued inputFails more).write text =
      ((terminal.write text).1, (terminal.write text).2.continued inputFails more) := by
  obtain ⟨unread, ahead, written, room, flushes, failingFlush⟩ := terminal
  cases room <;> rfl

/-- Writing has no part in what comes after the input. -/
theorem inputFails_write (text : String) :
    (terminal.write text).2.inputFails = terminal.inputFails := by
  unfold write
  cases terminal.room <;> rfl

/-- More bytes to read make no difference to flushing. -/
theorem flush_continued :
    (terminal.continued inputFails more).flush =
      (terminal.flush.1, terminal.flush.2.continued inputFails more) := rfl

/-- More bytes to read make no difference to reading a line before them. -/
theorem readLine_continued (h : lineFeed ∈ terminal.unread) :
    (terminal.continued inputFails more).readLine =
      (terminal.readLine.1, terminal.readLine.2.continued inputFails more) := by
  have split : splitLine (terminal.continued inputFails more).unread =
      ((splitLine terminal.unread).1, (splitLine terminal.unread).2 ++ more) :=
    splitLine_append_of_mem h more
  have last := getLast?_splitLine h
  rw [readLine_eq, readLine_eq, split]
  simp only [last, ne_eq, not_true_eq_false, and_false, if_false]
  rfl

variable {terminal}

/-- Reading on fails at the end of an input that fails. -/
theorem readLine_of_fails (fails : terminal.inputFails = true) (nothing : terminal.unread = []) :
    terminal.readLine = (.error .inputFailed, terminal) := by
  obtain ⟨unread, ahead, written, room, flushes, failingFlush⟩ := terminal
  obtain rfl : unread = [] := nothing
  obtain rfl : ahead = true := fails
  rfl

/-- Reading fails at a line that is not text, and takes it. -/
theorem readLine_of_not_text {line rest : List UInt8} (isLine : IsLine line rest)
    (notText : Text.decode? line = none) (nothing : terminal.unread = []) :
    ∃ fault, (terminal.continued inputFails (line ++ rest)).readLine =
      (.error fault, { terminal with unread := rest, inputFails }) := by
  have nonempty : line ≠ [] := by
    rintro rfl
    cases notText
  have split : splitLine (terminal.continued inputFails (line ++ rest)).unread = (line, rest) := by
    rw [continued, nothing, List.nil_append]
    exact splitLine_of_isLine isLine
  have read : lineOf line = .error .notText := by
    rw [lineOf, if_neg nonempty, notText]
  rw [readLine_eq, split, read]
  split
  · exact ⟨_, rfl⟩
  · exact ⟨_, rfl⟩

end Calculator.Terminal
