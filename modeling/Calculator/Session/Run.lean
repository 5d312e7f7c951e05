import Calculator.Session.Dialogue
import Calculator.Session.Terminal

/-!
# Running a dialogue

A session is a terminal, a store and a log. Carrying out a script changes all three; a fault
of the terminal stops it, with everything done before the fault in place. Rounds follow one
another as long as they end in agreement. They come to an end because a round that does has
read at least one line, and nothing ever puts bytes back.
-/

namespace Calculator

open History (Store)

/-- A terminal, a store and a log. -/
structure Session (σ : Type) where
  /-- The terminal. -/
  terminal : Terminal
  /-- The store of the history. -/
  store : σ
  /-- What was reported, in order. -/
  log : List Notice

variable {σ α β : Type}

/-- How carrying out a script ends, and the session afterwards. -/
abbrev Ending (σ α : Type) := Except TerminalFault α × Session σ

/-- Goes on from an ending, unless a fault stopped it. -/
def Ending.andThen (ending : Ending σ α) (following : α → Session σ → Ending σ β) :
    Ending σ β :=
  match ending with
  | (.ok value, session) => following value session
  | (.error fault, session) => (.error fault, session)

/-- An operation of the terminal inside a session. -/
def Session.withTerminal (session : Session σ) (result : Except TerminalFault α × Terminal) :
    Ending σ α :=
  (result.1, { session with terminal := result.2 })

/-- A session after an operation of its store. -/
def Session.withOutcome (session : Session σ) (outcome : History.Outcome σ α) : Session σ :=
  { session with store := outcome.store, log := session.log ++ outcome.notices }

/-- Carries out a script in a session. -/
def Script.run [Store σ] (script : Script α) (session : Session σ) : Ending σ α :=
  match script with
  | .done value => (.ok value, session)
  | .write text next =>
    (session.withTerminal (session.terminal.write text)).andThen fun () => next.run
  | .flush next => (session.withTerminal session.terminal.flush).andThen fun () => next.run
  | .readLine next =>
    (session.withTerminal session.terminal.readLine).andThen fun line => (next line).run
  | .append entry next =>
    let outcome := Store.append session.store entry
    (next outcome.result).run (session.withOutcome outcome)
  | .readAll next =>
    let outcome := Store.readAll session.store
    (next outcome.result).run (session.withOutcome outcome)
  | .note notice next => next.run { session with log := session.log ++ [notice] }

/-- A script after another one is carried out after it. -/
theorem Script.run_andThen [Store σ] (script : Script α) (following : α → Script β)
    (session : Session σ) :
    (script.andThen following).run session =
      (script.run session).andThen fun value => (following value).run := by
  induction script generalizing session with
  | done value => rfl
  | write text next ih =>
    simp only [andThen, run, Session.withTerminal]
    cases (session.terminal.write text).1 with
    | error fault => rfl
    | ok value => exact ih _
  | flush next ih =>
    simp only [andThen, run, Session.withTerminal]
    cases (session.terminal.flush).1 with
    | error fault => rfl
    | ok value => exact ih _
  | readLine next ih =>
    simp only [andThen, run, Session.withTerminal]
    cases (session.terminal.readLine).1 with
    | error fault => rfl
    | ok value => exact ih value _
  | append entry next ih => exact ih _ _
  | readAll next ih => exact ih _ _
  | note notice next ih => exact ih _

/-- A script that goes on with another one is carried out in this order. -/
theorem Script.run_bind [Store σ] (script : Script α) (following : α → Script β)
    (session : Session σ) :
    (script >>= following).run session =
      (script.run session).andThen fun value => (following value).run :=
  script.run_andThen following session

/-- A script that only gives a value changes nothing. -/
theorem Script.run_pure [Store σ] (value : α) (session : Session σ) :
    (pure value : Script α).run session = (.ok value, session) := rfl

/-- How many bytes are still to be read. -/
def Session.unreadCount (session : Session σ) : Nat := session.terminal.unread.length

/-- No script puts bytes back. -/
theorem Script.unreadCount_run_le [Store σ] (script : Script α) (session : Session σ) :
    (script.run session).2.unreadCount ≤ session.unreadCount := by
  induction script generalizing session with
  | done value => exact Nat.le_refl _
  | write text next ih =>
    have same := Terminal.unread_write session.terminal text
    simp only [run, Session.withTerminal]
    cases (session.terminal.write text).1 with
    | error fault => exact Nat.le_of_eq (congrArg List.length same)
    | ok value => exact Nat.le_trans (ih _) (Nat.le_of_eq (congrArg List.length same))
  | flush next ih =>
    simp only [run, Session.withTerminal]
    cases (session.terminal.flush).1 with
    | error fault => exact Nat.le_refl _
    | ok value => exact ih _
  | readLine next ih =>
    have fewer := Terminal.length_unread_readLine_le session.terminal
    simp only [run, Session.withTerminal]
    cases (session.terminal.readLine).1 with
    | error fault => exact fewer
    | ok value => exact Nat.le_trans (ih value _) fewer
  | append entry next ih => exact ih _ _
  | readAll next ih => exact ih _ _
  | note notice next ih => exact ih _

/-- An operation of the terminal that ends well leaves its own terminal. -/
theorem Session.withTerminal_eq_ok {session after : Session σ} {value : α}
    {result : Except TerminalFault α × Terminal}
    (h : session.withTerminal result = (.ok value, after)) :
    result.1 = .ok value ∧ after = { session with terminal := result.2 } := by
  simp only [withTerminal, Prod.mk.injEq] at h
  exact ⟨h.1, h.2.symm⟩

/-- What goes on after an ending and ends well has gone on from a good ending. -/
theorem Ending.andThen_eq_ok {ending : Ending σ α} {following : α → Session σ → Ending σ β}
    {value : β} {after : Session σ} (h : ending.andThen following = (.ok value, after)) :
    ∃ first middle, ending = (.ok first, middle) ∧ following first middle = (.ok value, after) := by
  obtain ⟨result, middle⟩ := ending
  cases result with
  | error fault => simp [andThen] at h
  | ok first => exact ⟨first, middle, rfl, h⟩

/-- An answer takes at least one byte. -/
theorem unreadCount_of_ask [Store σ] {prompt answer : String} {session after : Session σ}
    (h : (Dialogue.ask prompt).run session = (.ok (some answer), after)) :
    after.unreadCount < session.unreadCount := by
  simp only [Dialogue.ask, Script.run] at h
  obtain ⟨_, prompted, written, h⟩ := Ending.andThen_eq_ok h
  obtain ⟨_, flushed, emptied, h⟩ := Ending.andThen_eq_ok h
  obtain ⟨line, heard, read, h⟩ := Ending.andThen_eq_ok h
  obtain ⟨-, rfl⟩ := Session.withTerminal_eq_ok written
  obtain ⟨-, rfl⟩ := Session.withTerminal_eq_ok emptied
  obtain ⟨got, rfl⟩ := Session.withTerminal_eq_ok read
  cases line with
  | none =>
    simp only [Script.run] at h
    obtain ⟨_, _, _, h⟩ := Ending.andThen_eq_ok h
    simp at h
  | some line =>
    simp only [Script.run, Prod.mk.injEq] at h
    obtain ⟨-, rfl⟩ := h
    have fewer := Terminal.length_unread_readLine_lt got
    rw [Terminal.unread_flush, Terminal.unread_write] at fewer
    exact fewer

/-- An agreement takes at least one byte. -/
theorem unreadCount_of_confirm [Store σ] {question : String} {session after : Session σ}
    (h : (Dialogue.confirm question).run session = (.ok true, after)) :
    after.unreadCount < session.unreadCount := by
  rw [Dialogue.confirm, Script.run_bind] at h
  obtain ⟨answer, middle, asked, h⟩ := Ending.andThen_eq_ok h
  cases answer with
  | none => simp [Script.run_pure] at h
  | some answer =>
    simp only [Script.run_pure, Prod.mk.injEq] at h
    obtain ⟨-, rfl⟩ := h
    exact unreadCount_of_ask asked

/-- A round that another one follows has read at least one byte. -/
theorem unreadCount_of_round [Store σ] {session after : Session σ}
    (h : Dialogue.round.run session = (.ok true, after)) :
    after.unreadCount < session.unreadCount := by
  rw [Dialogue.round, Script.run_bind] at h
  obtain ⟨answer, asked, askedWell, h⟩ := Ending.andThen_eq_ok h
  have first := Script.unreadCount_run_le (Dialogue.ask Dialogue.expressionPrompt) session
  rw [askedWell] at first
  cases answer with
  | none => simp [Script.run_pure] at h
  | some expression =>
    simp only [Script.run_bind] at h
    obtain ⟨_, calculated, ranWell, h⟩ := Ending.andThen_eq_ok h
    have second := Script.unreadCount_run_le (Dialogue.calculate expression) asked
    rw [ranWell] at second
    exact Nat.lt_of_lt_of_le (unreadCount_of_confirm h) (Nat.le_trans second first)

namespace Session

/-- Goes through rounds until one does not end in agreement. -/
def runRounds [Store σ] (session : Session σ) : Ending σ Unit :=
  match _ended : Dialogue.round.run session with
  | (.ok true, after) => after.runRounds
  | (.ok false, after) => (.ok (), after)
  | (.error fault, after) => (.error fault, after)
termination_by session.unreadCount
decreasing_by exact unreadCount_of_round _ended

/-- Goes through a whole dialogue. -/
def run [Store σ] (session : Session σ) : Ending σ Unit :=
  (Dialogue.opening.run session).andThen fun () opened =>
    opened.runRounds.andThen fun () finished => Dialogue.ending.run finished

/-- A session at its start. -/
def start (terminal : Terminal) (store : σ) : Session σ := ⟨terminal, store, []⟩

end Session

end Calculator
