import Calculator.Text.Bytes

/-!
# A terminal

A terminal holds the bytes still to be read and the bytes written so far. It may fail in four
ways: it takes only so many bytes, it cannot be flushed at some point, it cannot be read at
the end of its input, or a line is not text. What was written before a failure stays written,
as far as it fits, and a line that is not text counts as read.
-/

namespace Calculator

/-- Why a terminal cannot be used any more. -/
inductive TerminalFault where
  /-- The output takes no more bytes. -/
  | outputFull
  /-- The output cannot be flushed. -/
  | flushFailed
  /-- The input cannot be read. -/
  | inputFailed
  /-- A line is not valid UTF-8. -/
  | notText
  /-- Any other cause, in its own words. -/
  | other (message : String)
  deriving DecidableEq, Repr

/-- The wording of each cause. -/
def TerminalFault.message (fault : TerminalFault) : String :=
  "terminal I/O failure: " ++
    match fault with
    | .outputFull => "sink full"
    | .flushFailed => "flush broken"
    | .inputFailed => "source broken"
    | .notText => "stream did not contain valid UTF-8"
    | .other message => message

/-- Input, output and the faults that lie ahead. -/
structure Terminal where
  /-- The bytes still to be read. -/
  unread : List UInt8
  /-- Whether reading past them fails, instead of finding the end. -/
  inputFails : Bool
  /-- The bytes written so far. -/
  written : List UInt8
  /-- How many more bytes can be written, if not any number. -/
  room : Option Nat
  /-- How many times the output was flushed. -/
  flushes : Nat
  /-- Which flush fails, counted from one, if any. -/
  failingFlush : Option Nat
  deriving DecidableEq, Repr

namespace Terminal

/-- A terminal without faults, with some input. -/
def ofInput (input : List UInt8) : Terminal := ⟨input, false, [], none, 0, none⟩

/-- Writes a text, or as much of it as fits. -/
def write (terminal : Terminal) (text : String) : Except TerminalFault Unit × Terminal :=
  let bytes := Text.encode text
  match terminal.room with
  | none => (.ok (), { terminal with written := terminal.written ++ bytes })
  | some room =>
    let rest := { terminal with
      written := terminal.written ++ bytes.take room
      room := some (room - bytes.length) }
    (if bytes.length ≤ room then .ok () else .error .outputFull, rest)

/-- Flushes what was written. -/
def flush (terminal : Terminal) : Except TerminalFault Unit × Terminal :=
  let flushes := terminal.flushes + 1
  (if terminal.failingFlush = some flushes then .error .flushFailed else .ok (),
    { terminal with flushes })

/-- The byte that ends a line. -/
def lineFeed : UInt8 := 0x0A

/-- The bytes up to the end of the first line, which may lack its line feed, and the bytes
after it. -/
def splitLine : List UInt8 → List UInt8 × List UInt8
  | [] => ([], [])
  | byte :: rest =>
    if byte = lineFeed then ([byte], rest)
    else
      let (line, after) := splitLine rest
      (byte :: line, after)

/-- Reads a line with its line feed; none is left at the end of the input. -/
def readLine (terminal : Terminal) : Except TerminalFault (Option String) × Terminal :=
  let (line, after) := splitLine terminal.unread
  let rest := { terminal with unread := after }
  if terminal.inputFails ∧ line.getLast? ≠ some lineFeed then (.error .inputFailed, rest)
  else if line = [] then (.ok none, rest)
  else
    match Text.decode? line with
    | none => (.error .notText, rest)
    | some text => (.ok (some text), rest)

/-- A line is split off without changing the bytes. -/
theorem splitLine_append (bytes : List UInt8) :
    (splitLine bytes).1 ++ (splitLine bytes).2 = bytes := by
  induction bytes with
  | nil => rfl
  | cons byte rest ih =>
    simp only [splitLine]
    split
    · rfl
    · exact congrArg (byte :: ·) ih

/-- Writing reads nothing. -/
theorem unread_write (terminal : Terminal) (text : String) :
    (terminal.write text).2.unread = terminal.unread := by
  unfold write
  cases terminal.room <;> rfl

/-- Flushing reads nothing. -/
theorem unread_flush (terminal : Terminal) : (terminal.flush).2.unread = terminal.unread := rfl

/-- Reading leaves what follows the first line. -/
theorem unread_readLine (terminal : Terminal) :
    (terminal.readLine).2.unread = (splitLine terminal.unread).2 := by
  unfold readLine
  dsimp only
  split
  · rfl
  split
  · rfl
  split <;> rfl

/-- Reading never puts bytes back. -/
theorem length_unread_readLine_le (terminal : Terminal) :
    (terminal.readLine).2.unread.length ≤ terminal.unread.length := by
  rw [unread_readLine]
  have parts := congrArg List.length (splitLine_append terminal.unread)
  rw [List.length_append] at parts
  omega

/-- A line that was read takes at least one byte. -/
theorem length_unread_readLine_lt {terminal : Terminal} {line : String}
    (h : (terminal.readLine).1 = .ok (some line)) :
    (terminal.readLine).2.unread.length < terminal.unread.length := by
  rw [unread_readLine]
  have parts := congrArg List.length (splitLine_append terminal.unread)
  rw [List.length_append] at parts
  have nonempty : (splitLine terminal.unread).1 ≠ [] := by
    intro empty
    unfold readLine at h
    dsimp only at h
    split at h
    · cases h
    · cases h
  have := List.length_pos_iff.mpr nonempty
  omega

end Terminal

end Calculator
