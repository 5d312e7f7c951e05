import Calculator.Proofs.History.Growth
import Calculator.Proofs.Session.Lockstep
import Calculator.Proofs.Session.Terminal

/-!
# A fault cuts a session short

A session on a terminal with faults is the session without them up to the first fault that it
meets, and ends there (`Script.truncates_run`). Nothing is undone, repeated or done in another
order, so what was written, reported, read and stored is the beginning of what would have been.
A line that is not text is met like the end of an input that cannot be read on, in the same place.
-/

namespace Calculator

open History (Grows Growing MemoryStore Store)

variable {σ α β : Type}

/-! ## What was done stays done -/

namespace Session

/-- The session if none of the faults of its terminal lay ahead. -/
def withoutFaults (session : Session σ) : Session σ :=
  { session with terminal := session.terminal.withoutFaults }

/-- A session that has done no more than a later one. -/
structure Precedes [Store σ] (earlier later : Session σ) : Prop where
  /-- The terminal has written and read no more. -/
  terminal : earlier.terminal.Precedes later.terminal
  /-- What was reported is the beginning of what is reported later. -/
  log : earlier.log <+: later.log
  /-- The store has no more entries. -/
  store : Grows earlier.store later.store

variable [Store σ]

/-- Every session has done what it has done. -/
theorem Precedes.refl (session : Session σ) : session.Precedes session :=
  ⟨.refl _, List.prefix_refl _, .refl _⟩

/-- What was done before something that was done before is done. -/
theorem Precedes.trans {first second third : Session σ} (once : first.Precedes second)
    (again : second.Precedes third) : first.Precedes third :=
  ⟨once.terminal.trans again.terminal, once.log.trans again.log, once.store.trans again.store⟩

/-- An operation of the terminal that only adds to what the terminal did only adds to what the
session did. -/
theorem Precedes.withTerminal {start session : Session σ} {terminal : Terminal}
    (h : start.Precedes session) (more : session.terminal.Precedes terminal) :
    start.Precedes { session with terminal } :=
  h.trans ⟨more, List.prefix_refl _, .refl _⟩

/-- No operation takes anything back. -/
theorem kept_precedes [Growing σ] (start : Session σ) : Kept (start.Precedes ·) where
  write := fun h text => h.withTerminal (Terminal.precedes_write _ text)
  flush := fun h => h.withTerminal (Terminal.precedes_flush _)
  readLine := fun h => h.withTerminal (Terminal.precedes_readLine _)
  append := fun h entry =>
    h.trans ⟨.refl _, List.prefix_append _ _, Growing.append _ entry⟩
  readAll := fun h => h.trans ⟨.refl _, List.prefix_append _ _, Growing.readAll _⟩
  note := fun h _ => h.trans ⟨.refl _, List.prefix_append _ _, .refl _⟩

end Session

/-- A script takes nothing back. -/
theorem Script.precedes_run [Store σ] [Growing σ] (script : Script α) (session : Session σ) :
    session.Precedes (script.run session).2 :=
  session.kept_precedes.run script (.refl session)

/-- A dialogue takes nothing back. -/
theorem Session.precedes_run [Store σ] [Growing σ] (session : Session σ) :
    session.Precedes session.run.2 :=
  session.kept_precedes.dialogue (.refl session)

/-! ## Cut short or the same -/

/-- How something ends in a session, and how it ends without the faults ahead. -/
inductive Ending.Truncates [Store σ] (ending whole : Ending σ α) : Prop where
  /-- In the same way. -/
  | same (alike : whole = (ending.1, ending.2.withoutFaults))
  /-- In a fault, after no more than is done without it. -/
  | cut {fault : TerminalFault} (failed : ending.1 = .error fault)
      (precedes : ending.2.Precedes whole.2)

namespace Ending.Truncates

variable [Store σ]

/-- What a fault does to a terminal it does to its session. -/
theorem withTerminal (session : Session σ) {result whole : Except TerminalFault α × Terminal}
    (truncates : Terminal.Truncates result whole) :
    Truncates (session.withTerminal result) (session.withoutFaults.withTerminal whole) := by
  cases truncates with
  | same alike => exact .same (by rw [alike]; rfl)
  | cut failed precedes => exact .cut failed ⟨precedes, List.prefix_refl _, .refl _⟩

/-- Something cut short stays so whatever follows, if what follows takes nothing back. -/
theorem andThen {ending whole : Ending σ α} (truncates : Truncates ending whole)
    {following : α → Session σ → Ending σ β}
    (next : ∀ value session,
      Truncates (following value session) (following value session.withoutFaults))
    (onward : ∀ value (session : Session σ), session.Precedes (following value session).2) :
    Truncates (ending.andThen following) (whole.andThen following) := by
  obtain ⟨result, session⟩ := ending
  cases truncates with
  | same alike =>
    rw [alike]
    cases result with
    | error fault => exact .same rfl
    | ok value => exact next value session
  | cut failed precedes =>
    obtain rfl := failed
    refine .cut rfl (precedes.trans ?_)
    obtain ⟨result, later⟩ := whole
    cases result with
    | error fault => exact .refl later
    | ok value => exact onward value later

end Ending.Truncates

/-- A script is cut short by a fault, or meets none. -/
theorem Script.truncates_run [Store σ] [Growing σ] (script : Script α) (session : Session σ) :
    Ending.Truncates (script.run session) (script.run session.withoutFaults) := by
  induction script generalizing session with
  | done value => exact .same rfl
  | write text next ih =>
    exact (Ending.Truncates.withTerminal session (session.terminal.truncates_write text)).andThen
      (fun _ => ih) fun _ => next.precedes_run
  | flush next ih =>
    exact (Ending.Truncates.withTerminal session session.terminal.truncates_flush).andThen
      (fun _ => ih) fun _ => next.precedes_run
  | readLine next ih =>
    exact (Ending.Truncates.withTerminal session session.terminal.truncates_readLine).andThen
      ih fun line => (next line).precedes_run
  | append entry next ih => exact ih _ _
  | readAll next ih => exact ih _ _
  | note notice next ih => exact ih _

/-- A dialogue is cut short by a fault, or meets none. -/
theorem Session.truncates_run [Store σ] [Growing σ] (session : Session σ) :
    Ending.Truncates session.run session.withoutFaults.run := by
  have enough : session.unreadCount < session.unreadCount + 1 := Nat.lt_succ_self _
  rw [session.run_eq_upTo enough, session.withoutFaults.run_eq_upTo enough]
  exact Script.truncates_run _ session

/-- What was done up to a fault is no more than is done without it. -/
theorem Ending.Truncates.precedes [Store σ] {ending whole : Ending σ α}
    (truncates : Truncates ending whole) : ending.2.Precedes whole.2 := by
  cases truncates with
  | same alike =>
    rw [alike]
    exact ⟨⟨List.prefix_refl _, List.suffix_refl _⟩, List.prefix_refl _, .refl _⟩
  | cut failed precedes => exact precedes

/-! ## A line that is not text -/

namespace Session

/-- A session with more bytes to read. -/
def continued (session : Session σ) (inputFails : Bool) (more : List UInt8) : Session σ :=
  { session with terminal := session.terminal.continued inputFails more }

/-- Sessions of which the other one has the same lines to read, and then fails to read on. -/
structure CutBefore (inputFails : Bool) (more : List UInt8) (session other : Session σ) :
    Prop where
  /-- Nothing else is different. -/
  same : session = other.continued inputFails more
  /-- The other one fails to read on. -/
  fails : other.terminal.inputFails = true
  /-- What comes before that are lines. -/
  complete : Terminal.Complete other.terminal.unread

/-- Sessions that were stopped after the same: the one by a line and the other before it, or both
by something else before they came to the line. -/
structure StoppedAlike (line rest : List UInt8) (session : Session σ) (fault : TerminalFault)
    (other : Session σ) : Prop where
  /-- The same was written. -/
  written : session.terminal.written = other.terminal.written
  /-- The output was flushed as often. -/
  flushes : session.terminal.flushes = other.terminal.flushes
  /-- The stores are the same. -/
  store : session.store = other.store
  /-- The same was reported. -/
  log : session.log = other.log
  /-- The line was not read, or nothing after it was. -/
  place : line ++ rest <:+ session.terminal.unread ∨
    session.terminal.unread = rest ∧ fault = .inputFailed

namespace CutBefore

variable {inputFails : Bool} {line rest : List UInt8} {session other : Session σ}

/-- An operation of the terminal that the line has no part in goes on or fails in both. -/
theorem inStep {result longer : Except TerminalFault α × Terminal}
    (same : longer = (result.1, result.2.continued inputFails (line ++ rest)))
    (fails : result.2.inputFails = true) (complete : Terminal.Complete result.2.unread) :
    InStep (CutBefore inputFails (line ++ rest))
      (fun _ session fault other => StoppedAlike line rest session fault other)
      ((other.continued inputFails (line ++ rest)).withTerminal longer)
      (other.withTerminal result) := by
  obtain ⟨answer, terminal⟩ := result
  obtain rfl := same
  cases answer with
  | ok value => exact .goOn value ⟨rfl, fails, complete⟩
  | error fault => exact .stop ⟨rfl, rfl, rfl, rfl, .inl (List.suffix_append _ _)⟩

/-- A session stays in step with one that fails to read just before a line that is not text. -/
theorem lockstep [Store σ] (isLine : Terminal.IsLine line rest)
    (notText : Text.decode? line = none) :
    Lockstep (σ := σ) (CutBefore inputFails (line ++ rest))
      fun _ session fault other => StoppedAlike line rest session fault other where
  write := by
    rintro _ other ⟨rfl, fails, complete⟩ text
    have kept := other.terminal.inputFails_write text
    have unread := other.terminal.unread_write text
    exact inStep (Terminal.write_continued _ _ _ text) (kept.trans fails) (unread ▸ complete)
  flush := by
    rintro _ other ⟨rfl, fails, complete⟩
    exact inStep (Terminal.flush_continued other.terminal _ _) fails complete
  readLine := by
    rintro _ other ⟨rfl, fails, complete⟩
    by_cases nothing : other.terminal.unread = []
    · obtain ⟨fault, read⟩ := Terminal.readLine_of_not_text inputFails isLine notText nothing
      have longer : (other.continued inputFails (line ++ rest)).terminal.readLine = _ := read
      rw [longer, Terminal.readLine_of_fails fails nothing]
      exact .stop ⟨rfl, rfl, rfl, rfl, .inr ⟨rfl, rfl⟩⟩
    · have same := Terminal.readLine_continued _ inputFails (line ++ rest) (complete.mem nothing)
      refine inStep same ?_ ?_
      · rw [Terminal.readLine_eq]
        exact fails
      · rw [Terminal.unread_readLine]
        exact complete.splitLine
  append := by
    rintro _ other ⟨rfl, fails, complete⟩ entry
    exact ⟨rfl, rfl, fails, complete⟩
  readAll := by
    rintro _ other ⟨rfl, fails, complete⟩
    exact ⟨rfl, rfl, fails, complete⟩
  note := by
    rintro _ other ⟨rfl, fails, complete⟩ notice
    exact ⟨rfl, fails, complete⟩

end CutBefore

end Session

/-! ## The whole session -/

/-- A session that reads a line that is not text is stopped like one that fails to read before the
line. -/
theorem Session.stoppedAlike_of_reached [Store σ] {session other : Session σ} {inputFails : Bool}
    {line rest : List UInt8} (beside : CutBefore inputFails (line ++ rest) session other)
    (isLine : Terminal.IsLine line rest) (notText : Text.decode? line = none)
    (reached : session.run.2.terminal.unread.length < (line ++ rest).length) :
    ∃ fault, session.run.1 = .error fault ∧ other.run.1 = .error .inputFailed ∧
      session.run.2.terminal.unread = rest ∧
      StoppedAlike line rest session.run.2 .inputFailed other.run.2 := by
  have ended := (CutBefore.lockstep isLine notText).dialogue beside
  generalize session.run = first at ended reached ⊢
  generalize other.run = second at ended ⊢
  cases ended with
  | goOn value beside =>
    obtain rfl := beside.same
    simp only [continued, Terminal.continued, List.length_append] at reached
    omega
  | stop stopped =>
    rcases stopped.place with unread | ⟨after, rfl⟩
    · have enough := unread.length_le
      exact absurd reached (Nat.not_lt.mpr enough)
    · exact ⟨_, rfl, rfl, after, stopped⟩

/-- A session on a terminal with faults writes, reports, reads and stores the beginning of what it
does on the terminal without them, and ends in a fault unless it is that session in everything. If
it reads a line that is not text, then it has written, flushed, reported and stored the same as if
the input could not be read from that line on, and ends in a fault right after the line. -/
theorem fault_truncates [Store σ] [Growing σ] (store : σ) (input : List UInt8)
    (inputFails : Bool) (room failingFlush : Option Nat) :
    let faulty := (Session.start ⟨input, inputFails, [], room, 0, failingFlush⟩ store).run
    let whole := (Session.start (.ofInput input) store).run
    (faulty.2.terminal.written <+: whole.2.terminal.written ∧
      faulty.2.log <+: whole.2.log ∧
      (∃ read more, input = read ++ faulty.2.terminal.unread ∧
        input = read ++ more ++ whole.2.terminal.unread) ∧
      Grows faulty.2.store whole.2.store) ∧
    ((∃ fault, faulty.1 = .error fault) ∨ whole = (faulty.1, faulty.2.withoutFaults)) ∧
    ∀ before line rest, input = before ++ (line ++ rest) → Terminal.Complete before →
      Terminal.IsLine line rest → Text.decode? line = none →
      faulty.2.terminal.unread.length < (line ++ rest).length →
      let stopped := (Session.start ⟨before, true, [], room, 0, failingFlush⟩ store).run
      (∃ fault, faulty.1 = .error fault) ∧ stopped.1 = .error .inputFailed ∧
      faulty.2.terminal.unread = rest ∧
      faulty.2.terminal.written = stopped.2.terminal.written ∧
      faulty.2.terminal.flushes = stopped.2.terminal.flushes ∧
      faulty.2.store = stopped.2.store ∧ faulty.2.log = stopped.2.log := by
  intro faulty whole
  have start := (Session.start ⟨input, inputFails, [], room, 0, failingFlush⟩ store).precedes_run
  have truncates : Ending.Truncates faulty whole := Session.truncates_run _
  refine ⟨⟨truncates.precedes.terminal.written, truncates.precedes.log, ?_,
    truncates.precedes.store⟩, ?_, ?_⟩
  · obtain ⟨read, readFirst⟩ := start.terminal.unread
    obtain ⟨more, readThen⟩ := truncates.precedes.terminal.unread
    refine ⟨read, more, readFirst.symm, ?_⟩
    rw [List.append_assoc, readThen]
    exact readFirst.symm
  · cases truncates with
    | same alike => exact .inr alike
    | cut failed precedes => exact .inl ⟨_, failed⟩
  · rintro before line rest rfl complete isLine notText reached stopped
    have beside : Session.CutBefore inputFails (line ++ rest)
        (Session.start ⟨before ++ (line ++ rest), inputFails, [], room, 0, failingFlush⟩ store)
        (Session.start ⟨before, true, [], room, 0, failingFlush⟩ store) := ⟨rfl, rfl, complete⟩
    obtain ⟨fault, failed, fails, after, alike⟩ :=
      Session.stoppedAlike_of_reached beside isLine notText reached
    exact ⟨⟨fault, failed⟩, fails, after, alike.written, alike.flushes, alike.store, alike.log⟩

/-- The first line is not text: the session has written the greeting and the prompt, as it has when
there is nothing to read, and leaves the second line. -/
theorem fault_truncates_at_first_line :
    let faulty := (Session.start ⟨[0xFF, 0x0A, 0x79], false, [], some 100, 0, some 2⟩
      (MemoryStore.ofEntries [])).run
    let stopped := (Session.start ⟨[], true, [], some 100, 0, some 2⟩
      (MemoryStore.ofEntries [])).run
    (∃ fault, faulty.1 = .error fault) ∧ stopped.1 = .error .inputFailed ∧
      faulty.2.terminal.unread = [0x79] ∧
      faulty.2.terminal.written = stopped.2.terminal.written ∧
      stopped.2.terminal.written =
        Text.encode "Welcome to Terminal Calculator with Parser!\nEnter an expression: " := by
  intro faulty stopped
  have reached : faulty.2.terminal.unread = [0x79] := by
    have enough : (3 : Nat) < 4 := by decide
    have course := Session.run_eq_upTo (Session.start
      ⟨[0xFF, 0x0A, 0x79], false, [], some 100, 0, some 2⟩ (MemoryStore.ofEntries [])) enough
    rw [show faulty = _ from course]
    rfl
  have shown : stopped.2.terminal.written =
      Text.encode "Welcome to Terminal Calculator with Parser!\nEnter an expression: " := by
    have enough : (0 : Nat) < 1 := by decide
    have course := Session.run_eq_upTo (Session.start
      ⟨[], true, [], some 100, 0, some 2⟩ (MemoryStore.ofEntries [])) enough
    rw [show stopped = _ from course]
    rfl
  have reading := (fault_truncates (MemoryStore.ofEntries []) [0xFF, 0x0A, 0x79] false (some 100)
    (some 2)).2.2 [] [0xFF, 0x0A] [0x79] rfl (.inl rfl) ⟨by decide, .inl rfl⟩ rfl
  obtain ⟨failed, fails, rest, written, -⟩ := reading (by rw [reached]; decide)
  exact ⟨failed, fails, rest, written, shown⟩

end Calculator
