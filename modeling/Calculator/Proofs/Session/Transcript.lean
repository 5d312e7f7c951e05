import Calculator.Proofs.History.Refinement
import Calculator.Proofs.Session.Control

/-!
# A dialogue follows its transcript

A store that keeps a list adds every entry and gives all of them back, so without faults an
expression with a value is always answered by its result and a line that says that it was saved
(`replyWith_eq_reply`). What a dialogue writes is then the transcript of its lines, and it saves an
entry for every expression with a value (`run_of_keeps`). The next dialogue with the same store
starts from what is saved then (`Dialogue.follows_transcript`).
-/

namespace Calculator

open Calculation (Answered)

open History (Entry Keeps MemoryStore Store memory_keeps)

variable {σ : Type}

namespace Dialogue

/-! ## The transcript of the rounds -/

/-- The entries of the rounds are those of the first one and of the others, if there are any. -/
theorem saved_cons_cons (expression answer : String) (lines : List String) :
    saved (expression :: answer :: lines) = (entryOf? (withoutLineEnd expression)).toList ++
      if saysYes answer then saved lines else [] := by
  rw [saved, expressions, List.filterMap_cons]
  cases entryOf? (withoutLineEnd expression) <;>
    cases saysYes answer <;> rfl

/-- The transcript of the rounds has a prompt, a reply and a question for each expression. -/
theorem encode_roundsTranscript (lines : List String) :
    Text.encode (roundsTranscript lines) =
      ((expressions lines).flatMap fun expression =>
        Text.encode (expressionPrompt ++ reply expression ++ againQuestion)) ++
        Text.encode (roundsEnd (lastRound lines) lines.length) := by
  induction lines using lastRound.induct with
  | case1 => rfl
  | case2 expression =>
    rw [roundsTranscript, expressions, List.flatMap_singleton, Text.encode_append _ "\n"]
    rfl
  | case3 expression answer lines agrees ih =>
    rw [roundsTranscript, if_pos agrees, expressions, if_pos agrees, List.flatMap_cons, lastRound,
      if_pos agrees, List.length_cons, List.length_cons, roundsEnd_succ, Text.encode_append, ih,
      List.append_assoc]
  | case4 expression answer lines declines =>
    have ended : roundsEnd 1 (lines.length + 1 + 1) = "" := if_pos (by omega)
    rw [roundsTranscript, if_neg declines, expressions, if_neg declines, List.flatMap_singleton,
      lastRound, if_neg declines, List.length_cons, List.length_cons, ended, Text.encode_append]

/-! ## With a store that keeps a list -/

variable [Store σ] {Holds : σ → List Entry → Prop} {store : σ} {entries : List Entry}
  {session : Session σ} {lines : List String} {written : List UInt8} {flushes : Nat}

/-- An expression with a value is always saved. -/
theorem replyWith_eq_reply (keeps : Keeps Holds) (held : Holds store entries)
    (expression : String) : replyWith store expression = reply expression := by
  rw [replyWith, reply]
  cases evaluate expression with
  | error error => rfl
  | ok value =>
    dsimp only
    rw [(keeps.append held ⟨expression, Number.resultText value⟩).1, savingReply,
      String.append_assoc]
    rfl

/-- The entry of an expression comes after all others. -/
theorem holds_storeAfter (keeps : Keeps Holds) (held : Holds store entries)
    (expression : String) :
    Holds (storeAfter store expression) (entries ++ (entryOf? expression).toList) := by
  rw [storeAfter]
  cases entryOf? expression with
  | none =>
    rw [Option.toList_none, List.append_nil]
    exact held
  | some entry => exact (keeps.append held entry).2

/-- The entries of several expressions come after all others, in order. -/
theorem holds_foldl_storeAfter (keeps : Keeps Holds) (held : Holds store entries)
    (typed : List String) :
    Holds (typed.foldl storeAfter store) (entries ++ typed.filterMap entryOf?) := by
  induction typed generalizing store entries with
  | nil =>
    rw [List.filterMap_nil, List.append_nil]
    exact held
  | cons expression typed ih =>
    have others := ih (holds_storeAfter keeps held expression)
    rw [List.foldl_cons, List.filterMap_cons]
    cases found : entryOf? expression <;> simpa [found] using others

/-- Calculations write the replies to their expressions. -/
theorem flatMap_turn (keeps : Keeps Holds) (held : Holds store entries)
    {calculations : List (Calculation σ)} (answered : Answered store calculations) :
    calculations.flatMap Calculation.turn =
      (calculations.map (·.expression)).flatMap fun expression =>
        Text.encode (expressionPrompt ++ reply expression ++ againQuestion) := by
  induction answered generalizing entries with
  | done store => rfl
  | next shown _ ih =>
    rw [List.flatMap_cons, List.map_cons, List.flatMap_cons, ih (holds_storeAfter keeps held _),
      Calculation.turn, shown, replyWith_eq_reply keeps held, Text.encode_append,
      Text.encode_append]

/-- The history that is offered has all entries. -/
theorem offer_eq (keeps : Keeps Holds) (held : Holds store entries) (lines : List String) :
    historyQuestion ++ offerReply store lines.head? =
      offerTranscript entries lines ++ farewell ++ "\n" := by
  cases lines with
  | nil => simp only [List.head?_nil, offerReply, offerTranscript, String.append_assoc]
  | cons answer lines =>
    simp only [List.head?_cons, offerReply, offerTranscript, (keeps.readAll held).1, historyReply,
      String.append_assoc]

/-- A dialogue follows its transcript from the greeting to the farewell. -/
theorem run_of_keeps (keeps : Keeps Holds) (held : Holds store entries)
    (faces : session.Faces store lines written flushes) :
    ∃ after, session.run = (.ok (), after) ∧ Holds after.store (entries ++ saved lines) ∧
      after.terminal.written = written ++ Text.encode (transcript entries lines) := by
  obtain ⟨after, left, ended, typed, replies, kept, reached⟩ := run_of_faces faces
  have added : Holds ((expressions lines).foldl storeAfter store) (entries ++ saved lines) :=
    holds_foldl_storeAfter keeps held (expressions lines)
  refine ⟨after, ended, ?_, ?_⟩
  · rw [reached.stored]
    rcases kept with rfl | rfl
    · exact added
    · exact (keeps.readAll added).2
  · have offer := congrArg Text.encode (offer_eq keeps added (afterRounds lines))
    rw [afterRounds_eq_drop, List.head?_drop, ← afterRounds_eq_drop, Text.encode_append] at offer
    have texts : transcript entries lines = welcome ++ "\n" ++ (roundsTranscript lines ++
        (offerTranscript (entries ++ saved lines) (afterRounds lines) ++ farewell ++ "\n")) := by
      simp only [transcript, String.append_assoc]
    rw [texts, Text.encode_append (welcome ++ "\n"), Text.encode_append (roundsTranscript lines),
      encode_roundsTranscript, ← offer, reached.terminal, flatMap_turn keeps held replies, typed]
    simp only [Terminal.faultless, List.append_assoc]

/-! ## Dialogues one after another -/

/-- A dialogue among others with one store starts from what the others before it saved. -/
theorem getElem?_runAll (keeps : Keeps Holds) {store : σ} (held : Holds store entries)
    (before : List String) (input : String) (after : List String) :
    ∃ session,
      (Session.runAll store ((before ++ input :: after).map fun input =>
        .ofInput (Text.encode input)))[before.length]? = some (.ok (), session) ∧
      Holds session.store
        (entries ++ before.flatMap (saved <| Text.lines ·) ++ saved (Text.lines input)) ∧
      session.terminal.written = Text.encode
        (transcript (entries ++ before.flatMap (saved <| Text.lines ·)) (Text.lines input)) := by
  induction before generalizing store entries with
  | nil =>
    obtain ⟨session, ended, reached, shown⟩ :=
      run_of_keeps keeps held (Session.start_faces store input)
    refine ⟨session, ?_, ?_, ?_⟩
    · simp only [List.nil_append, List.map_cons, Session.runAll, List.length_nil,
        List.getElem?_cons_zero, ended]
    · simpa using reached
    · simpa using shown
  | cons first before ih =>
    obtain ⟨middle, ended, between, -⟩ :=
      run_of_keeps keeps held (Session.start_faces store first)
    obtain ⟨session, last, reached, shown⟩ := ih between
    refine ⟨session, ?_, ?_, ?_⟩
    · simpa [Session.runAll, ended] using last
    · simpa [List.append_assoc] using reached
    · simpa [List.append_assoc] using shown

/-- Without faults and with a store that can be read and extended, a dialogue saves an entry for
every expression with a value, in order, and nothing else, and shows its transcript, be it alone or
among others with one store; what the others before it saved is there when it starts. An expression
without a value is answered by one line with its error and leaves the store as it was. An entry has
the expression as typed but for the line feeds and carriage returns at its end. -/
theorem follows_transcript (keeps : Keeps Holds) {store : σ} (held : Holds store entries) :
    (∀ before input after, ∃ session,
      (Session.runAll store ((before ++ input :: after).map fun input =>
        .ofInput (Text.encode input)))[before.length]? = some (.ok (), session) ∧
      Holds session.store
        (entries ++ before.flatMap (saved <| Text.lines ·) ++ saved (Text.lines input)) ∧
      session.terminal.written = Text.encode
        (transcript (entries ++ before.flatMap (saved <| Text.lines ·)) (Text.lines input))) ∧
    (∀ expression error, evaluate expression = .error error →
      ∀ session : Session σ, session.terminal.room = none →
      (calculate expression).run session =
        (.ok (), ⟨session.terminal.showing ("Error: " ++ error.message ++ "\n"), session.store,
          session.log ++ (Evaluation.ofText expression).notices ++ [.refused error.message]⟩)) ∧
    ∀ line, ∃ lineEnd, line = withoutLineEnd line ++ lineEnd ∧
      (∀ c ∈ lineEnd.toList, c = '\n' ∨ c = '\r') ∧
      ∀ c, (withoutLineEnd line).toList.getLast? = some c → c ≠ '\n' ∧ c ≠ '\r' :=
  ⟨getElem?_runAll keeps held,
    fun _ _ refused _ roomy => run_calculate_of_error refused roomy,
    withoutLineEnd_spec⟩

/-- One of two expressions has a value; the history shows it after the entry from before. The second
of two dialogues has nothing to read. -/
theorem follows_transcript_of_two :
    ∃ session,
      (Session.runAll (MemoryStore.ofEntries [⟨"4", "4.0"⟩])
        [.ofInput (Text.encode "1 + 2\r\nYES\n1 2\nno\nyes"), .ofInput []])[0]? =
          some (.ok (), session) ∧
      session.store = MemoryStore.ofEntries [⟨"4", "4.0"⟩, ⟨"1 + 2", "3.0"⟩] ∧
      session.terminal.written = Text.encode
        ("Welcome to Terminal Calculator with Parser!\n" ++
          "Enter an expression: Result: 3.0\nResult saved to history.\n" ++
          "Would you like to perform another calculation? (yes/no): " ++
          "Enter an expression: Error: Malformed expression\n" ++
          "Would you like to perform another calculation? (yes/no): " ++
          "Would you like to see the calculation history? (yes/no): " ++
          "Calculation History:\nExpression: 4, Result: 4.0\nExpression: 1 + 2, Result: 3.0\n" ++
          "Thank you for using Terminal Calculator with Parser. Goodbye!\n") := by
  have held : MemoryStore.ofEntries [⟨"4", "4.0"⟩] = .ofEntries [⟨"4", "4.0"⟩] := rfl
  obtain ⟨session, ended, reached, shown⟩ := (follows_transcript memory_keeps held).1
    [] "1 + 2\r\nYES\n1 2\nno\nyes" [""]
  have added : saved (Text.lines "1 + 2\r\nYES\n1 2\nno\nyes") = [⟨"1 + 2", "3.0"⟩] := by
    decide +kernel
  refine ⟨session, ended, ?_, shown.trans (congrArg Text.encode ?_)⟩
  · exact reached.trans (congrArg (MemoryStore.ofEntries <| [⟨"4", "4.0"⟩] ++ ·) added)
  · decide +kernel

end Dialogue

end Calculator
