import Calculator.Session.Calculations

/-!
# How rounds follow one another

Rounds go on until no expression is read, until an answer does not agree, or until the terminal
fails: at a prompt for an expression, in a calculation or at a question. `Session.Rounds` lists these
cases with the calculations made and the ending reached, and any session goes through its rounds
in one of them (`Session.rounds`). What holds of all rounds is proved by induction on the cases.
-/

namespace Calculator

open History (Store)

variable {σ : Type} [Store σ]

namespace Session

open Dialogue (ask confirm expressionPrompt againQuestion)

/-- How a session goes through rounds: the calculations that it makes and how it ends. -/
inductive Rounds {σ : Type} [Store σ] :
    Session σ → List (Calculation σ) → Ending σ Unit → Prop where
  /-- The terminal fails at the prompt for an expression. -/
  | unasked {session after : Session σ} {fault : TerminalFault}
      (asked : (ask expressionPrompt).run session = (.error fault, after)) :
      Rounds session [] (.error fault, after)
  /-- No expression is left to be read. -/
  | finished {session after : Session σ}
      (asked : (ask expressionPrompt).run session = (.ok none, after)) :
      Rounds session [] (.ok (), after)
  /-- The terminal fails in a calculation. -/
  | cut {session after : Session σ} {calculation : Calculation σ} {fault : TerminalFault}
      (asked : (ask expressionPrompt).run session =
        (.ok (some calculation.expression), calculation.before))
      (calculated : calculation.ending = (.error fault, after)) :
      Rounds session [calculation] (.error fault, after)
  /-- The terminal fails at the question whether to go on. -/
  | unanswered {session between after : Session σ} {calculation : Calculation σ}
      {fault : TerminalFault}
      (asked : (ask expressionPrompt).run session =
        (.ok (some calculation.expression), calculation.before))
      (calculated : calculation.ending = (.ok (), between))
      (answered : (confirm againQuestion).run between = (.error fault, after)) :
      Rounds session [calculation] (.error fault, after)
  /-- The answer does not agree. -/
  | declined {session between after : Session σ} {calculation : Calculation σ}
      (asked : (ask expressionPrompt).run session =
        (.ok (some calculation.expression), calculation.before))
      (calculated : calculation.ending = (.ok (), between))
      (answered : (confirm againQuestion).run between = (.ok false, after)) :
      Rounds session [calculation] (.ok (), after)
  /-- The answer agrees, and rounds follow. -/
  | agreed {session between after : Session σ} {calculation : Calculation σ}
      {calculations : List (Calculation σ)} {ending : Ending σ Unit}
      (asked : (ask expressionPrompt).run session =
        (.ok (some calculation.expression), calculation.before))
      (calculated : calculation.ending = (.ok (), between))
      (answered : (confirm againQuestion).run between = (.ok true, after))
      (others : Rounds after calculations ending) :
      Rounds session (calculation :: calculations) ending

variable {session : Session σ}

/-- A round with an expression calculates it and asks whether to go on. -/
theorem run_round {calculation : Calculation σ}
    (asked : (ask expressionPrompt).run session =
      (.ok (some calculation.expression), calculation.before)) :
    Dialogue.round.run session =
      calculation.ending.andThen fun () => (confirm againQuestion).run := by
  rw [Dialogue.round, Script.run_bind, asked]
  exact Script.run_bind _ _ _

/-- A round with an expression makes its calculation. -/
theorem nextCalculation_of_asked {calculation : Calculation σ}
    (asked : (ask expressionPrompt).run session =
      (.ok (some calculation.expression), calculation.before)) :
    session.nextCalculation = some calculation := by
  rw [nextCalculation, asked]

/-- A round that fails ends the rounds. -/
theorem eq_of_round_error {after : Session σ} {fault : TerminalFault}
    (round : Dialogue.round.run session = (.error fault, after)) :
    session.roundCalculations = session.nextCalculation.toList ∧
      session.runRounds = (.error fault, after) := by
  rw [roundCalculations, runRounds, round]
  exact ⟨List.append_nil _, rfl⟩

/-- A round that does not end in agreement ends the rounds. -/
theorem eq_of_round_false {after : Session σ}
    (round : Dialogue.round.run session = (.ok false, after)) :
    session.roundCalculations = session.nextCalculation.toList ∧
      session.runRounds = (.ok (), after) := by
  rw [roundCalculations, runRounds, round]
  exact ⟨List.append_nil _, rfl⟩

/-- A round that ends in agreement is followed by others. -/
theorem eq_of_round_true {after : Session σ}
    (round : Dialogue.round.run session = (.ok true, after)) :
    session.roundCalculations = session.nextCalculation.toList ++ after.roundCalculations ∧
      session.runRounds = after.runRounds := by
  rw [roundCalculations, runRounds, round]
  exact ⟨rfl, rfl⟩

/-- The cases determine the calculations and the ending. -/
theorem Rounds.eq {calculations : List (Calculation σ)} {ending : Ending σ Unit}
    (rounds : session.Rounds calculations ending) :
    session.roundCalculations = calculations ∧ session.runRounds = ending := by
  induction rounds with
  | @unasked session after fault asked =>
    have round : Dialogue.round.run session = (.error fault, after) := by
      rw [Dialogue.round, Script.run_bind, asked]
      rfl
    have nothing : session.nextCalculation = none := by rw [nextCalculation, asked]
    rw [← Option.toList_none, ← nothing]
    exact eq_of_round_error round
  | @finished session after asked =>
    have round : Dialogue.round.run session = (.ok false, after) := by
      rw [Dialogue.round, Script.run_bind, asked]
      rfl
    have nothing : session.nextCalculation = none := by rw [nextCalculation, asked]
    rw [← Option.toList_none, ← nothing]
    exact eq_of_round_false round
  | @cut session after calculation fault asked calculated =>
    have round : Dialogue.round.run session = (.error fault, after) := by
      rw [run_round asked, calculated]
      rfl
    rw [← Option.toList_some, ← nextCalculation_of_asked asked]
    exact eq_of_round_error round
  | @unanswered session between after calculation fault asked calculated answered =>
    have round : Dialogue.round.run session = (.error fault, after) := by
      rw [run_round asked, calculated]
      exact answered
    rw [← Option.toList_some, ← nextCalculation_of_asked asked]
    exact eq_of_round_error round
  | @declined session between after calculation asked calculated answered =>
    have round : Dialogue.round.run session = (.ok false, after) := by
      rw [run_round asked, calculated]
      exact answered
    rw [← Option.toList_some, ← nextCalculation_of_asked asked]
    exact eq_of_round_false round
  | @agreed session between after calculation calculations ending asked calculated answered _ ih =>
    have round : Dialogue.round.run session = (.ok true, after) := by
      rw [run_round asked, calculated]
      exact answered
    obtain ⟨others, ended⟩ := eq_of_round_true round
    rw [others, ended, nextCalculation_of_asked asked, ih.1, ih.2]
    exact ⟨rfl, rfl⟩

/-- Any session goes through rounds in one of the cases. -/
theorem exists_rounds (session : Session σ) :
    ∃ calculations ending, session.Rounds calculations ending := by
  induction unread : session.unreadCount using Nat.strongRecOn generalizing session with
  | _ count ih =>
    obtain ⟨answer, asked⟩ : ∃ answer, (ask expressionPrompt).run session = answer := ⟨_, rfl⟩
    match answer, asked with
    | (.error fault, after), asked => exact ⟨_, _, .unasked asked⟩
    | (.ok none, after), asked => exact ⟨_, _, .finished asked⟩
    | (.ok (some expression), before), asked =>
      obtain ⟨calculation, asked⟩ : ∃ calculation : Calculation σ,
          (ask expressionPrompt).run session =
            (.ok (some calculation.expression), calculation.before) :=
        ⟨⟨expression, before⟩, asked⟩
      obtain ⟨ended, calculated⟩ : ∃ ended, calculation.ending = ended := ⟨_, rfl⟩
      match ended, calculated with
      | (.error fault, after), calculated => exact ⟨_, _, .cut asked calculated⟩
      | (.ok (), between), calculated =>
        obtain ⟨answer, answered⟩ :
          ∃ answer, (confirm againQuestion).run between = answer := ⟨_, rfl⟩
        match answer, answered with
        | (.error fault, after), answered => exact ⟨_, _, .unanswered asked calculated answered⟩
        | (.ok false, after), answered => exact ⟨_, _, .declined asked calculated answered⟩
        | (.ok true, after), answered =>
          have round : Dialogue.round.run session = (.ok true, after) := by
            rw [run_round asked, calculated]
            exact answered
          have fewer := unreadCount_of_round round
          obtain ⟨calculations, ending, others⟩ := ih _ (unread ▸ fewer) after rfl
          exact ⟨_, _, .agreed asked calculated answered others⟩

/-- A session goes through its rounds in one of the cases. -/
theorem rounds (session : Session σ) :
    session.Rounds session.roundCalculations session.runRounds := by
  obtain ⟨calculations, ending, rounds⟩ := exists_rounds session
  obtain ⟨rfl, rfl⟩ := rounds.eq
  exact rounds

end Session

end Calculator
