import Calculator.Proofs.History.Refinement
import Calculator.Proofs.Session.Course
import Calculator.Proofs.Session.Faultless
import Calculator.Proofs.Session.Operations
import Calculator.Proofs.Session.Replies
import Calculator.Proofs.Session.Rounds

/-!
# Results are shown, then saved, then confirmed

A calculation shows its result, saves it and confirms this, and the terminal may fail in the middle
of any line. There are four ways for a calculation to come out (`Calculation.Upshot`): no value, no
line, an entry that is not confirmed, and one that is. So the entries added by a dialogue are those
of the results shown in full, in their order, and at most the last one of them is not confirmed
(`Session.saves_shown_results`).
-/

namespace Calculator

open History (Entry Keeps MemoryStore Store memory_keeps)

/-! ## Lines written in full -/

namespace Terminal

/-- Bytes without a line feed have no line in full. -/
theorem fullLines_of_notMem {bytes : List UInt8} (h : lineFeed ∉ bytes) : fullLines bytes = [] := by
  rw [fullLines, List.splitOn_eq_singleton h]
  rfl

/-- A line feed ends the first line. -/
theorem fullLines_append {line : List UInt8} (h : lineFeed ∉ line) (rest : List UInt8) :
    fullLines (line ++ [lineFeed] ++ rest) = line :: fullLines rest := by
  have parts := List.splitOn_ne_nil lineFeed rest
  rw [fullLines, List.append_assoc, List.singleton_append, List.splitOn_append_cons_self,
    List.splitOn_eq_singleton h, List.singleton_append, List.dropLast_cons_of_ne_nil parts, fullLines]

/-- A line is written in full, or the terminal fails within it. -/
theorem write_line_cases {text : String} (single : '\n' ∉ text.toList) (terminal : Terminal) :
    ((terminal.write (text ++ "\n")).1 = .ok () ∧
      (terminal.write (text ++ "\n")).2.written =
        terminal.written ++ (Text.encode text ++ [lineFeed])) ∨
    ∃ fault part, (terminal.write (text ++ "\n")).1 = .error fault ∧
      (terminal.write (text ++ "\n")).2.written = terminal.written ++ part ∧ lineFeed ∉ part := by
  have bytes : Text.encode (text ++ "\n") = Text.encode text ++ [lineFeed] :=
    Text.encode_append text "\n"
  obtain ⟨unread, inputFails, written, room, flushes, failingFlush⟩ := terminal
  cases room with
  | none => exact .inl ⟨rfl, congrArg (written ++ ·) bytes⟩
  | some room =>
    by_cases fits : (Text.encode (text ++ "\n")).length ≤ room
    · refine .inl ⟨if_pos fits, ?_⟩
      rw [← bytes]
      exact congrArg (written ++ ·) (List.take_of_length_le fits)
    · refine .inr ⟨.outputFull, (Text.encode (text ++ "\n")).take room, if_neg fits, rfl, ?_⟩
      rw [bytes, List.length_append, List.length_singleton] at fits
      rw [bytes, List.take_append_of_le_length (by omega)]
      exact fun member => Text.notMem_encode single (List.mem_of_mem_take member)

end Terminal

variable {σ : Type}

/-! ## Stores that entries can be added to -/

/-- A relation of stores to lists such that every entry can be added, and comes after all others.
Reading keeps the list, but may give anything. -/
structure History.Accepts [Store σ] (Holds : σ → List Entry → Prop) : Prop where
  /-- An entry is added after all others. -/
  append : ∀ {store entries}, Holds store entries → ∀ entry,
    (Store.append store entry).result = .ok () ∧
      Holds (Store.append store entry).store (entries ++ [entry])
  /-- Reading adds nothing. -/
  readAll : ∀ {store entries}, Holds store entries → Holds (Store.readAll store).store entries

open History (Accepts)

variable [Store σ] {Holds : σ → List Entry → Prop}

/-- A store that keeps a list accepts entries. -/
theorem History.Keeps.accepts (keeps : Keeps Holds) : Accepts Holds where
  append := keeps.append
  readAll := fun held => (keeps.readAll held).2

/-- A script that adds no entry leaves the list of the store. -/
theorem Script.Uses.held {α : Type} {script : Script α} (uses : script.Uses (· ≠ .append))
    (accepts : Accepts Holds) {session after : Session σ} {entries : List Entry}
    {result : Except TerminalFault α} (held : Holds session.store entries)
    (ended : script.run session = (result, after)) : Holds after.store entries := by
  have kept := uses.keeps (Holds · entries) accepts.readAll held
  rw [ended] at kept
  exact kept

/-! ## One calculation -/

/-- How a calculation comes out: the lines that it writes in full, the entries that it adds and how
it ends. -/
inductive Calculation.Upshot (expression : String) :
    List (List UInt8) → List Entry → Except TerminalFault Unit → Prop where
  /-- There is no value, and the error is shown. -/
  | refused (error : EvaluationError) :
      Upshot expression [Text.encode (Dialogue.errorLine error.message)] [] (.ok ())
  /-- The terminal fails in the first line. -/
  | cut (fault : TerminalFault) : Upshot expression [] [] (.error fault)
  /-- The terminal fails in the line that confirms the result. -/
  | unconfirmed (result : String) (fault : TerminalFault) :
      Upshot expression [Text.encode (Dialogue.resultLine result)] [⟨expression, result⟩]
        (.error fault)
  /-- The result is shown, saved and confirmed. -/
  | saved (result : String) :
      Upshot expression
        [Text.encode (Dialogue.resultLine result), Text.encode Dialogue.savedLine]
        [⟨expression, result⟩] (.ok ())

namespace Dialogue

open Calculation (Upshot)

/-- The line of an error is a single line. -/
theorem notMem_errorLine {expression : String} {error : EvaluationError}
    (refused : evaluate expression = .error error) :
    '\n' ∉ (errorLine error.message).toList := by
  rw [errorLine, String.toList_append, List.mem_append, not_or]
  exact ⟨by decide, notMem_message refused⟩

/-- The line of a result is a single line. -/
theorem notMem_resultLine (value : Float) :
    '\n' ∉ (resultLine (Number.resultText value)).toList := by
  rw [resultLine, String.toList_append, List.mem_append, not_or]
  exact ⟨by decide, Number.notMem_resultText value⟩

/-- The line that confirms a result is a single line. -/
theorem notMem_savedLine : '\n' ∉ savedLine.toList := by decide

/-- A line is shown in full, or the terminal fails within it; the store has no part in it. -/
theorem run_line_cases {text : String} (single : '\n' ∉ text.toList) (session : Session σ) :
    ∃ result after bytes, (line text).run session = (result, after) ∧
      after.terminal.written = session.terminal.written ++ bytes ∧
      after.store = session.store ∧
      (result = .ok () ∧ bytes = Text.encode text ++ [Terminal.lineFeed] ∨
        ∃ fault, result = .error fault ∧ Terminal.lineFeed ∉ bytes) := by
  have course : (line text).run session =
      session.withTerminal (session.terminal.write (text ++ "\n")) := by
    rw [line, Script.run]
    cases written : (session.terminal.write (text ++ "\n")).1 with
    | error fault => simp only [Session.withTerminal, written, Ending.andThen]
    | ok value => simp only [Session.withTerminal, written, Ending.andThen, Script.run]
  rcases Terminal.write_line_cases single session.terminal with
    ⟨written, output⟩ | ⟨fault, part, failed, output, none⟩
  · exact ⟨_, _, _, course, output, rfl, .inl ⟨written, rfl⟩⟩
  · exact ⟨_, _, part, course, output, rfl, .inr ⟨fault, failed, none⟩⟩

/-- An error is shown, unless the terminal fails. -/
theorem run_refuse_upshot {expression : String} {error : EvaluationError}
    (refused : evaluate expression = .error error) (session : Session σ) :
    ∃ result after bytes, (refuse (.expression error)).run session = (result, after) ∧
      after.terminal.written = session.terminal.written ++ bytes ∧
      after.store = session.store ∧ Upshot expression (Terminal.fullLines bytes) [] result := by
  have single := notMem_errorLine refused
  obtain ⟨result, after, bytes, ended, output, same, shown⟩ := run_line_cases single
    { session with log := session.log ++ [.refused error.message] }
  refine ⟨result, after, bytes, ended, output, same, ?_⟩
  rcases shown with ⟨rfl, rfl⟩ | ⟨fault, rfl, none⟩
  · have line := Terminal.fullLines_append (Text.notMem_encode single) []
    rw [List.append_nil, Terminal.fullLines_of_notMem List.not_mem_nil] at line
    rw [line]
    exact .refused error
  · rw [Terminal.fullLines_of_notMem none]
    exact .cut fault

/-- A result is saved once it is shown, and then confirmed, unless the terminal fails. -/
theorem run_save_upshot (accepts : Accepts Holds) {session : Session σ} {entries : List Entry}
    (held : Holds session.store entries) (expression : String) (value : Float) :
    ∃ result after bytes added,
      (save expression (Number.resultText value)).run session = (result, after) ∧
      after.terminal.written = session.terminal.written ++ bytes ∧
      Holds after.store (entries ++ added) ∧
      Upshot expression (Terminal.fullLines bytes) added result := by
  let entry : Entry := ⟨expression, Number.resultText value⟩
  have single := notMem_resultLine value
  obtain ⟨result, shown, bytes, ended, output, same, written⟩ := run_line_cases single session
  rcases written with ⟨rfl, rfl⟩ | ⟨fault, rfl, none⟩
  · have line := Terminal.fullLines_append (Text.notMem_encode single)
    obtain ⟨accepted, added⟩ := accepts.append (same ▸ held) entry
    let kept := shown.withOutcome (Store.append shown.store entry)
    have course : (save expression (Number.resultText value)).run session =
        ((Dialogue.line savedLine).run kept).andThen fun () =>
          (note (.saved expression)).run := by
      have appended : (Script.append entry .done).run shown = (.ok (.ok ()), kept) := by
        rw [Script.run, accepted]
        rfl
      rw [save, Script.run_bind, ended]
      change (Script.append entry .done >>= _).run shown = _
      rw [Script.run_bind, appended]
      exact Script.run_bind _ _ _
    obtain ⟨result, after, more, confirmed, outputMore, sameAfter, written⟩ :=
      run_line_cases notMem_savedLine kept
    rw [confirmed] at course
    have all : after.terminal.written = session.terminal.written ++
        (Text.encode (resultLine (Number.resultText value)) ++ [Terminal.lineFeed] ++ more) := by
      rw [outputMore, ← List.append_assoc, ← output]
      rfl
    rcases written with ⟨rfl, rfl⟩ | ⟨fault, rfl, none⟩
    · refine ⟨_, _, _, [entry], course, all, sameAfter ▸ added, ?_⟩
      have last := Terminal.fullLines_append (Text.notMem_encode notMem_savedLine) []
      rw [List.append_nil, Terminal.fullLines_of_notMem List.not_mem_nil] at last
      rw [line, last]
      exact .saved _
    · refine ⟨_, _, _, [entry], course, all, sameAfter ▸ added, ?_⟩
      rw [line, Terminal.fullLines_of_notMem none]
      exact .unconfirmed _ fault
  · refine ⟨.error fault, shown, bytes, [], ?_, output, ?_, ?_⟩
    · rw [save, Script.run_bind, ended]
      rfl
    · rw [same, List.append_nil]
      exact held
    · rw [Terminal.fullLines_of_notMem none]
      exact .cut fault

end Dialogue

namespace Calculation

variable {calculation : Calculation σ} {entries : List Entry}

/-- What a calculation writes is what its output has more than the output before it. -/
theorem shown_of_ending {after : Session σ} {result : Except TerminalFault Unit}
    {bytes : List UInt8} (ended : calculation.ending = (result, after))
    (written : after.terminal.written = calculation.before.terminal.written ++ bytes) :
    calculation.shown = bytes := by
  rw [shown, ended, written]
  exact List.drop_left

/-- A calculation comes out in one of four ways. -/
theorem exists_upshot (accepts : Accepts Holds) (held : Holds calculation.before.store entries) :
    ∃ added, Holds calculation.ending.2.store (entries ++ added) ∧
      Upshot calculation.expression calculation.lines added calculation.ending.1 := by
  have course := Dialogue.run_calculate calculation.expression calculation.before
  cases evaluated : evaluate calculation.expression with
  | error error =>
    rw [evaluated] at course
    obtain ⟨result, after, bytes, ended, output, same, upshot⟩ :=
      Dialogue.run_refuse_upshot evaluated { calculation.before with
        log := calculation.before.log ++ (Evaluation.ofText calculation.expression).notices }
    have ended : calculation.ending = (result, after) := course.trans ended
    refine ⟨[], ?_, ?_⟩
    · rw [ended, same, List.append_nil]
      exact held
    · rw [lines, shown_of_ending ended output, ended]
      exact upshot
  | ok value =>
    rw [evaluated] at course
    let noted : Session σ := { calculation.before with
      log := calculation.before.log ++ (Evaluation.ofText calculation.expression).notices }
    have heldNoted : Holds noted.store entries := held
    obtain ⟨result, after, bytes, added, ended, output, more, upshot⟩ :=
      Dialogue.run_save_upshot accepts heldNoted calculation.expression value
    have ended : calculation.ending = (result, after) := course.trans ended
    refine ⟨added, ?_, ?_⟩
    · rw [ended]
      exact more
    · rw [lines, shown_of_ending ended output, ended]
      exact upshot

end Calculation

/-! ## The lines of results -/

namespace Dialogue

/-- A line with a result starts with the mark. -/
theorem isPrefixOf_resultLine (result : String) :
    resultMark.isPrefixOf (Text.encode (resultLine result)) = true := by
  rw [List.isPrefixOf_iff_prefix]
  exact ⟨Text.encode result, (Text.encode_append _ _).symm⟩

/-- A line with an error does not. -/
theorem isPrefixOf_errorLine (message : String) :
    resultMark.isPrefixOf (Text.encode (errorLine message)) = false := by
  rw [errorLine, Text.encode_append]
  rfl

/-- Nor does the line that confirms a result. -/
theorem isPrefixOf_savedLine : resultMark.isPrefixOf (Text.encode savedLine) = false := rfl

/-- A line with a result confirms nothing. -/
theorem resultLine_ne_savedLine (result : String) :
    Text.encode (resultLine result) ≠ Text.encode savedLine := by
  intro same
  have marked := isPrefixOf_resultLine result
  rw [same, isPrefixOf_savedLine] at marked
  cases marked

/-- A line with an error confirms nothing. -/
theorem errorLine_ne_savedLine (message : String) :
    Text.encode (errorLine message) ≠ Text.encode savedLine := by
  rw [errorLine, Text.encode_append]
  intro same
  have first := congrArg List.head? same
  cases first

end Dialogue

namespace Calculation.Upshot

variable {expression : String} {lines : List (List UInt8)} {added : List Entry}
  {result : Except TerminalFault Unit}

/-- The results shown in full are those of the entries added. -/
theorem results_eq (upshot : Upshot expression lines added result) :
    (lines.filter Dialogue.resultMark.isPrefixOf).map (expression, ·) =
      added.map Dialogue.resultShown := by
  cases upshot with
  | refused error => simp [Dialogue.isPrefixOf_errorLine]
  | cut fault => rfl
  | unconfirmed result fault => simp [Dialogue.isPrefixOf_resultLine, Dialogue.resultShown]
  | saved result =>
    simp [Dialogue.isPrefixOf_resultLine, Dialogue.isPrefixOf_savedLine, Dialogue.resultShown]

/-- An entry added is confirmed, unless the terminal fails. -/
theorem count_savedLine (upshot : Upshot expression lines added result) :
    lines.count (Text.encode Dialogue.savedLine) = added.length ∨
      lines.count (Text.encode Dialogue.savedLine) + 1 = added.length ∧
        ∃ fault, result = .error fault := by
  cases upshot with
  | refused error =>
    exact .inl (List.count_eq_zero.mpr (by simp [(Dialogue.errorLine_ne_savedLine _).symm]))
  | cut fault => exact .inl rfl
  | unconfirmed result fault =>
    refine .inr ⟨?_, fault, rfl⟩
    rw [List.count_eq_zero.mpr (by simp [(Dialogue.resultLine_ne_savedLine _).symm])]
    rfl
  | saved result =>
    refine .inl ?_
    rw [List.count_cons_of_ne (Dialogue.resultLine_ne_savedLine result), List.count_singleton_self]
    rfl

end Calculation.Upshot

/-! ## Whole dialogues -/

/-- Entries that were added in some calculations, and what these wrote in full: a line for each
result, and a line that confirms it for all but perhaps the last one. -/
structure Session.Tally (Holds : σ → List Entry → Prop) (entries added : List Entry)
    (calculations : List (Calculation σ)) (ending : Ending σ Unit) : Prop where
  /-- The entries come after those that were there. -/
  held : Holds ending.2.store (entries ++ added)
  /-- Their results were shown in full, and no others. -/
  shown : calculations.flatMap Calculation.results = added.map Dialogue.resultShown
  /-- Each was confirmed, unless the terminal failed before the last one was. -/
  confirmed : confirmations calculations = added.length ∨
    confirmations calculations + 1 = added.length ∧
      ∃ fault, ending.1 = .error fault

namespace Session

variable {session : Session σ} {entries : List Entry}

/-- Without a calculation no entry is added. -/
theorem Tally.of_no_calculation {ending : Ending σ Unit} (held : Holds ending.2.store entries) :
    Tally Holds entries [] [] ending :=
  ⟨(List.append_nil entries).symm ▸ held, rfl, .inl rfl⟩

/-- A calculation adds an entry for its result. -/
theorem exists_tally_of_calculation (accepts : Accepts Holds) {calculation : Calculation σ}
    (held : Holds calculation.before.store entries) :
    ∃ added, Tally Holds entries added [calculation] calculation.ending := by
  obtain ⟨added, more, upshot⟩ := Calculation.exists_upshot accepts held
  refine ⟨added, more, ?_, ?_⟩
  · rw [List.flatMap_singleton]
    exact upshot.results_eq
  · rw [confirmations, List.flatMap_singleton]
    exact upshot.count_savedLine

/-- What adds no entry after the calculations leaves the tally, if these ended well. -/
theorem Tally.goOn {added : List Entry} {calculations : List (Calculation σ)} {value : Unit}
    {between : Session σ} (tally : Tally Holds entries added calculations (.ok value, between))
    {ending : Ending σ Unit} (held : Holds ending.2.store (entries ++ added)) :
    Tally Holds entries added calculations ending := by
  refine ⟨held, tally.shown, ?_⟩
  rcases tally.confirmed with all | ⟨-, fault, failed⟩
  · exact .inl all
  · cases failed

/-- Tallies are taken one after another, if the calculations of the first one ended well. -/
theorem Tally.append {added more : List Entry} {calculations others : List (Calculation σ)}
    {value : Unit} {between : Session σ} {ending : Ending σ Unit}
    (first : Tally Holds entries added calculations (.ok value, between))
    (second : Tally Holds (entries ++ added) more others ending) :
    Tally Holds entries (added ++ more) (calculations ++ others) ending := by
  refine ⟨?_, ?_, ?_⟩
  · rw [← List.append_assoc]
    exact second.held
  · rw [List.flatMap_append, List.map_append, first.shown, second.shown]
  · have parts : confirmations (calculations ++ others) =
        confirmations calculations + confirmations others := by
      rw [confirmations, List.flatMap_append, List.count_append, confirmations, confirmations]
    rw [parts, List.length_append]
    rcases first.confirmed with all | ⟨-, fault, failed⟩
    · rcases second.confirmed with others | ⟨others, failed⟩
      · exact .inl (by omega)
      · exact .inr ⟨by omega, failed⟩
    · cases failed

/-- Rounds add an entry for every result that they show. -/
theorem exists_tally_of_rounds (accepts : Accepts Holds) {calculations : List (Calculation σ)}
    {ending : Ending σ Unit} (rounds : session.Rounds calculations ending)
    (held : Holds session.store entries) :
    ∃ added, Tally Holds entries added calculations ending := by
  have ask : (Dialogue.ask Dialogue.expressionPrompt).Uses (· ≠ .append) :=
    Dialogue.ask_uses (by decide) (by decide) (by decide) _
  have confirm : (Dialogue.confirm Dialogue.againQuestion).Uses (· ≠ .append) :=
    Dialogue.confirm_uses (by decide) (by decide) (by decide) _
  induction rounds generalizing entries with
  | unasked asked => exact ⟨[], .of_no_calculation (ask.held accepts held asked)⟩
  | finished asked => exact ⟨[], .of_no_calculation (ask.held accepts held asked)⟩
  | cut asked calculated =>
    obtain ⟨added, tally⟩ := exists_tally_of_calculation accepts (ask.held accepts held asked)
    rw [calculated] at tally
    exact ⟨added, tally⟩
  | unanswered asked calculated answered =>
    obtain ⟨added, tally⟩ := exists_tally_of_calculation accepts (ask.held accepts held asked)
    rw [calculated] at tally
    exact ⟨added, tally.goOn (confirm.held accepts tally.held answered)⟩
  | declined asked calculated answered =>
    obtain ⟨added, tally⟩ := exists_tally_of_calculation accepts (ask.held accepts held asked)
    rw [calculated] at tally
    exact ⟨added, tally.goOn (confirm.held accepts tally.held answered)⟩
  | agreed asked calculated answered others ih =>
    obtain ⟨added, tally⟩ := exists_tally_of_calculation accepts (ask.held accepts held asked)
    rw [calculated] at tally
    obtain ⟨more, later⟩ := ih (confirm.held accepts tally.held answered)
    exact ⟨added ++ more, tally.append later⟩

/-- A dialogue adds an entry for every result that it shows. -/
theorem exists_tally (accepts : Accepts Holds) (held : Holds session.store entries) :
    ∃ added, Tally Holds entries added session.calculations session.run := by
  have opening : Dialogue.opening.Uses (· ≠ .append) := Dialogue.line_uses (by decide) _
  have confirm : (Dialogue.confirm Dialogue.historyQuestion).Uses (· ≠ .append) :=
    Dialogue.confirm_uses (by decide) (by decide) (by decide) _
  have ending : Dialogue.ending.Uses (· ≠ .append) := by
    rw [Dialogue.ending_eq]
    exact confirm.bind (Dialogue.parting_uses (by decide) (by decide) (by decide))
  cases opened : Dialogue.opening.run session with
  | mk result greeted =>
    have heldGreeted := opening.held accepts held opened
    rw [calculations, run, opened]
    cases result with
    | error fault => exact ⟨[], .of_no_calculation heldGreeted⟩
    | ok value =>
      obtain ⟨added, tally⟩ := exists_tally_of_rounds accepts greeted.rounds heldGreeted
      refine ⟨added, ?_⟩
      change Tally Holds entries added greeted.roundCalculations
        (greeted.runRounds.andThen fun () finished => Dialogue.ending.run finished)
      generalize greeted.runRounds = went at tally ⊢
      obtain ⟨result, finished⟩ := went
      cases result with
      | error fault => exact tally
      | ok value => exact tally.goOn (ending.held accepts tally.held rfl)

end Session

/-- Entries are added for exactly the results that are shown in full, in their order: a result that
the terminal cut off is not saved, whatever the terminal fails at. An entry is confirmed after it is
saved, so that at most one is not, and none if the dialogue ends well. -/
theorem Session.saves_shown_results (accepts : Accepts Holds) {store : σ} {entries : List Entry}
    (held : Holds store entries) (terminal : Terminal) :
    let session := start terminal store
    ∃ added, Holds session.run.2.store (entries ++ added) ∧
      session.calculations.flatMap Calculation.results = added.map Dialogue.resultShown ∧
      confirmations session.calculations ≤ added.length ∧
      added.length ≤ confirmations session.calculations + 1 ∧
      (session.run.1 = .ok () → added.length = confirmations session.calculations) := by
  intro session
  have heldFirst : Holds session.store entries := held
  obtain ⟨added, tally⟩ := exists_tally accepts heldFirst
  refine ⟨added, tally.held, tally.shown, ?_⟩
  rcases tally.confirmed with all | ⟨fewer, fault, failed⟩
  · exact ⟨by omega, by omega, fun _ => all.symm⟩
  · refine ⟨by omega, by omega, fun ended => ?_⟩
    rw [ended] at failed
    cases failed

/-- The output ends inside the line that confirms the first result: its entry is saved, and it is the
only result that was shown. -/
theorem saves_shown_results_when_cut :
    let first : Entry := ⟨"1 + 1", "2.0"⟩
    let second : Entry := ⟨"1 + 2", "3.0"⟩
    let terminal : Terminal := ⟨Text.encode "1 + 2\nyes\n5 - 2\n", false, [], some 78, 0, none⟩
    let session := Session.start terminal (MemoryStore.ofEntries [first])
    session.run.2.store = MemoryStore.ofEntries [first, second] ∧
      session.calculations.flatMap Calculation.results = [Dialogue.resultShown second] ∧
      confirmations session.calculations ≤ 1 := by
  intro first second terminal session
  obtain ⟨added, stored, shown, confirmed, -, -⟩ :=
    Session.saves_shown_results memory_keeps.accepts (rfl : MemoryStore.ofEntries [first] = _) terminal
  have saved : [first] ++ added = [first, second] := by
    have enough : session.unreadCount < 30 := by decide
    rw [session.run_eq_upTo enough] at stored
    refine (congrArg MemoryStore.entries stored).symm.trans ?_
    decide +kernel
  obtain rfl : added = [second] := List.append_cancel_left saved
  exact ⟨stored, shown, confirmed⟩

end Calculator
