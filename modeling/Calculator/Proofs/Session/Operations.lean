import Calculator.Session.Run

/-!
# Operations that a script uses

Most parts of a dialogue use a few of the operations only, whatever they are answered: nothing but a
prompt is flushed or reads a line, and nothing but a result is added to the history. A script that
adds nothing leaves the entries of the store as they are (`Script.Uses.keeps`).
-/

namespace Calculator

open History (Entry Store)

variable {σ α β : Type}

/-- The operations of a script. -/
inductive Operation where
  /-- Writing a text. -/
  | write
  /-- Flushing what was written. -/
  | flush
  /-- Reading a line. -/
  | readLine
  /-- Adding an entry to the history. -/
  | append
  /-- Reading the history. -/
  | readAll
  /-- Reporting to the log. -/
  | note
  deriving DecidableEq, Repr

/-- Whether a script uses only some of the operations, whatever the answers are. -/
def Script.Uses (allowed : Operation → Prop) : Script α → Prop
  | .done _ => True
  | .write _ next => allowed .write ∧ next.Uses allowed
  | .flush next => allowed .flush ∧ next.Uses allowed
  | .readLine next => allowed .readLine ∧ ∀ line, (next line).Uses allowed
  | .append _ next => allowed .append ∧ ∀ result, (next result).Uses allowed
  | .readAll next => allowed .readAll ∧ ∀ result, (next result).Uses allowed
  | .note _ next => allowed .note ∧ next.Uses allowed

namespace Script.Uses

variable {allowed : Operation → Prop}

/-- A value uses no operation. -/
theorem pure (value : α) : (Pure.pure value : Script α).Uses allowed := trivial

/-- Scripts one after another use the operations that each of them uses. -/
theorem bind {script : Script α} {following : α → Script β} (first : script.Uses allowed)
    (rest : ∀ value, (following value).Uses allowed) : (script >>= following).Uses allowed := by
  change (script.andThen following).Uses allowed
  induction script with
  | done value => exact rest value
  | write text next ih => exact ⟨first.1, ih first.2⟩
  | flush next ih => exact ⟨first.1, ih first.2⟩
  | readLine next ih => exact ⟨first.1, fun line => ih line (first.2 line)⟩
  | append entry next ih => exact ⟨first.1, fun result => ih result (first.2 result)⟩
  | readAll next ih => exact ⟨first.1, fun result => ih result (first.2 result)⟩
  | note notice next ih => exact ⟨first.1, ih first.2⟩

end Script.Uses

/-! ## Parts of a dialogue -/

namespace Dialogue

variable {allowed : Operation → Prop}

/-- A line is written. -/
theorem line_uses (write : allowed .write) (text : String) : (line text).Uses allowed :=
  ⟨write, trivial⟩

/-- An error is reported and written. -/
theorem refuse_uses (write : allowed .write) (note : allowed .note) (refusal : Refusal) :
    (refuse refusal).Uses allowed := ⟨note, write, trivial⟩

/-- A prompt is written and flushed, and a line is read. -/
theorem ask_uses (write : allowed .write) (flush : allowed .flush)
    (readLine : allowed .readLine) (prompt : String) : (ask prompt).Uses allowed := by
  refine ⟨write, flush, readLine, fun line => ?_⟩
  cases line with
  | none => exact ⟨write, trivial⟩
  | some answer => trivial

/-- A question is asked. -/
theorem confirm_uses (write : allowed .write) (flush : allowed .flush)
    (readLine : allowed .readLine) (question : String) : (confirm question).Uses allowed := by
  refine (ask_uses write flush readLine question).bind fun answer => ?_
  cases answer with
  | none => exact .pure false
  | some answer => exact .pure (agrees answer)

/-- Entries are written. -/
theorem listEntries_uses (write : allowed .write) (entries : List Entry) :
    (listEntries entries).Uses allowed := by
  induction entries with
  | nil => trivial
  | cons entry entries ih => exact (line_uses write _).bind fun _ => ih

/-- The history is read and written. -/
theorem showHistory_uses (write : allowed .write) (readAll : allowed .readAll)
    (note : allowed .note) : showHistory.Uses allowed := by
  refine ⟨readAll, fun found => ?_⟩
  match found with
  | .error error => exact refuse_uses write note (.history error)
  | .ok [] => exact line_uses write _
  | .ok (entry :: entries) =>
    exact (line_uses write _).bind fun _ => listEntries_uses write (entry :: entries)

/-- What follows the answer to the offer of the history. -/
def parting (agreed : Bool) : Script Unit :=
  if agreed then showHistory >>= fun () => line farewell else line farewell

/-- A dialogue ends with the offer of the history and what follows the answer. -/
theorem ending_eq : ending = confirm historyQuestion >>= parting := rfl

/-- The history is read and written on agreement. -/
theorem parting_uses (write : allowed .write) (readAll : allowed .readAll) (note : allowed .note)
    (agreed : Bool) : (parting agreed).Uses allowed := by
  cases agreed with
  | false => exact line_uses write farewell
  | true =>
    exact (showHistory_uses write readAll note).bind fun () => line_uses write farewell

end Dialogue

/-! ## What a script leaves -/

/-- A script that adds no entry leaves the store as reading leaves it. -/
theorem Script.Uses.keeps [Store σ] {script : Script α}
    (uses : script.Uses (· ≠ .append)) (Holds : σ → Prop)
    (readAll : ∀ {store}, Holds store → Holds (Store.readAll store).store)
    {session : Session σ} (held : Holds session.store) : Holds (script.run session).2.store := by
  induction script generalizing session with
  | done value => exact held
  | write text next ih =>
    simp only [run, Session.withTerminal]
    cases (session.terminal.write text).1 with
    | error fault => exact held
    | ok value => exact ih uses.2 held
  | flush next ih =>
    simp only [run, Session.withTerminal]
    cases (session.terminal.flush).1 with
    | error fault => exact held
    | ok value => exact ih uses.2 held
  | readLine next ih =>
    simp only [run, Session.withTerminal]
    cases (session.terminal.readLine).1 with
    | error fault => exact held
    | ok line => exact ih line (uses.2 line) held
  | append entry next ih => exact absurd rfl uses.1
  | readAll next ih => exact ih _ (uses.2 _) (readAll held)
  | note notice next ih => exact ih uses.2 held

end Calculator
