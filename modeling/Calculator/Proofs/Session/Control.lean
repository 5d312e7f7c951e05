import Calculator.Proofs.Session.Faultless
import Calculator.Proofs.Session.Rounds

/-!
# Answers decide how much is read

On a terminal without faults the answers alone decide how many rounds there are: the first one that
is missing or does not say yes ends them. What the expressions are, whether they have values and
what becomes of the history makes no difference, so the lines that are read, the prompts and the
flushes are known from the answers (`Session.run_of_answers`). A session that faces some lines goes
through the rounds for them one by one (`Dialogue.rounds_of_faces`), and what it writes in each is
known from the expression and the store.
-/

namespace Calculator

open History (Store)

/-! ## Rounds by the answers -/

namespace Dialogue

/-- The number of the last round, counted from one. -/
def lastRound : List String → Nat
  | [] => 1
  | [_] => 1
  | _ :: answer :: lines => if saysYes answer then lastRound lines + 1 else 1

/-- There is a last round. -/
theorem one_le_lastRound (lines : List String) : 1 ≤ lastRound lines := by
  match lines with
  | [] => exact Nat.le_refl 1
  | [_] => exact Nat.le_refl 1
  | _ :: answer :: lines =>
    rw [lastRound]
    split
    · omega
    · exact Nat.le_refl 1

/-- An answer two lines on is the answer of the next round. -/
theorem declines_cons_cons {expression answer : String} {lines : List String} {round : Nat}
    (counted : 1 ≤ round) :
    Declines (expression :: answer :: lines) (round + 1) ↔ Declines lines round := by
  have index : 2 * (round + 1) - 1 = 2 * round - 1 + 1 + 1 := by omega
  rw [Declines, Declines, index, List.getElem?_cons_succ, List.getElem?_cons_succ]

/-- The answer of the first round is the second line. -/
theorem declines_one {expression answer : String} {lines : List String} :
    Declines (expression :: answer :: lines) 1 ↔ saysYes answer = false := by
  simp [Declines]

/-- No round follows the last one. -/
theorem declines_lastRound (lines : List String) : Declines lines (lastRound lines) := by
  induction lines using lastRound.induct with
  | case1 =>
    intro answer found
    cases found
  | case2 expression =>
    intro answer found
    cases found
  | case3 expression answer lines agrees ih =>
    rw [lastRound, if_pos agrees, declines_cons_cons (one_le_lastRound lines)]
    exact ih
  | case4 expression answer lines declines =>
    rw [lastRound, if_neg declines, declines_one]
    exact Bool.eq_false_iff.mpr declines

/-- A round follows every round before the last one. -/
theorem not_declines_of_lt_lastRound {lines : List String} {round : Nat} (counted : 1 ≤ round)
    (earlier : round < lastRound lines) : ¬ Declines lines round := by
  induction lines using lastRound.induct generalizing round with
  | case1 =>
    rw [lastRound] at earlier
    omega
  | case2 expression =>
    rw [lastRound] at earlier
    omega
  | case3 expression answer lines agrees ih =>
    rw [lastRound, if_pos agrees] at earlier
    match round with
    | 1 => simp [declines_one, agrees]
    | round + 2 =>
      rw [declines_cons_cons (Nat.le_add_left 1 round)]
      exact ih (Nat.le_add_left 1 round) (by omega)
  | case4 expression answer lines declines =>
    rw [lastRound, if_neg declines] at earlier
    omega

/-- All rounds but the last one have both of their lines. -/
theorem lastRound_le (lines : List String) : 2 * lastRound lines ≤ lines.length + 2 := by
  induction lines using lastRound.induct with
  | case1 => exact Nat.le_refl 2
  | case2 expression => exact Nat.le_succ 2
  | case3 expression answer lines agrees ih =>
    rw [lastRound, if_pos agrees, List.length_cons, List.length_cons]
    omega
  | case4 expression answer lines declines =>
    rw [lastRound, if_neg declines]
    omega

/-- The rounds take two lines each. -/
theorem afterRounds_eq_drop (lines : List String) :
    afterRounds lines = lines.drop (2 * lastRound lines) := by
  induction lines using lastRound.induct with
  | case1 => rfl
  | case2 expression => rfl
  | case3 expression answer lines agrees ih =>
    rw [lastRound, afterRounds, if_pos agrees, if_pos agrees, ih, Nat.mul_succ]
    rfl
  | case4 expression answer lines declines =>
    rw [lastRound, afterRounds, if_neg declines, if_neg declines]
    rfl

/-- How many rounds have an expression. -/
def expressionCount (lines : List String) : Nat :=
  min (lastRound lines) ((lines.length + 1) / 2)

/-- Every other line is an expression, from the first one on. -/
theorem map_some_expressions (lines : List String) :
    (expressions lines).map some =
      (List.range (expressionCount lines)).map fun round =>
        lines[2 * round]?.map withoutLineEnd := by
  induction lines using lastRound.induct with
  | case1 => rfl
  | case2 expression =>
    have count : expressionCount [expression] = 1 := by
      rw [expressionCount, lastRound, List.length_singleton]
      decide
    rw [count]
    rfl
  | case3 expression answer lines agrees ih =>
    have count : expressionCount (expression :: answer :: lines) = expressionCount lines + 1 := by
      rw [expressionCount, lastRound, if_pos agrees, expressionCount]
      simp only [List.length_cons]
      omega
    rw [count, List.range_succ_eq_map, List.map_cons, List.map_map, expressions, if_pos agrees,
      List.map_cons, ih]
    rfl
  | case4 expression answer lines declines =>
    have count : expressionCount (expression :: answer :: lines) = 1 := by
      rw [expressionCount, lastRound, if_neg declines]
      simp only [List.length_cons]
      omega
    rw [count, expressions, if_neg declines]
    rfl

/-- What is written after the last round when so many lines were there for so many rounds. -/
def roundsEnd (rounds lines : Nat) : String :=
  if 2 * rounds ≤ lines then ""
  else if 2 * rounds ≤ lines + 1 then "\n"
  else expressionPrompt ++ "\n"

/-- A round before the last one has two lines. -/
theorem roundsEnd_succ (rounds lines : Nat) :
    roundsEnd (rounds + 1) (lines + 2) = roundsEnd rounds lines := by
  have inside : 2 * (rounds + 1) ≤ lines + 2 ↔ 2 * rounds ≤ lines := by omega
  have half : 2 * (rounds + 1) ≤ lines + 2 + 1 ↔ 2 * rounds ≤ lines + 1 := by omega
  simp only [roundsEnd, inside, half]

end Dialogue

/-! ## Going through the rounds -/

variable {σ : Type}

open Calculation (Answered)

namespace Dialogue

variable [Store σ] {store : σ} {session : Session σ} {lines : List String} {written : List UInt8}
  {flushes : Nat}

/-- A calculation leaves the lines and writes its reply. -/
theorem calculation_faces {calculation : Calculation σ}
    (faces : calculation.before.Faces store lines written flushes) :
    ∃ after, calculation.ending = (.ok (), after) ∧
      calculation.shown = Text.encode (replyWith store calculation.expression) ∧
      after.Faces (storeAfter store calculation.expression) lines (written ++ calculation.shown)
        flushes := by
  obtain ⟨after, ended, reached⟩ := calculate_faces faces calculation.expression
  have shown : calculation.shown = Text.encode (replyWith store calculation.expression) := by
    rw [Calculation.shown, Calculation.ending, ended, reached.terminal, faces.terminal]
    exact List.drop_left
  rw [← shown] at reached
  exact ⟨after, ended, shown, reached⟩

/-- A line is read and calculated. -/
theorem turn_of_faces {line : String}
    (faces : session.Faces store (line :: lines) written flushes) :
    ∃ (calculation : Calculation σ) (between : Session σ),
      calculation.expression = withoutLineEnd line ∧ calculation.before.store = store ∧
      (ask expressionPrompt).run session =
        (.ok (some calculation.expression), calculation.before) ∧
      calculation.ending = (.ok (), between) ∧
      calculation.shown = Text.encode (replyWith store calculation.expression) ∧
      between.Faces (storeAfter store calculation.expression) lines
        (written ++ Text.encode expressionPrompt ++ calculation.shown) (flushes + 1) := by
  obtain ⟨before, asked, faced⟩ := ask_faces_some faces expressionPrompt
  let calculation : Calculation σ := ⟨withoutLineEnd line, before⟩
  have start : calculation.before.Faces store lines (written ++ Text.encode expressionPrompt)
    (flushes + 1) := faced
  obtain ⟨between, calculated, shown, left⟩ := calculation_faces start
  exact ⟨calculation, between, rfl, faced.stored, asked, calculated, shown, left⟩

/-- A session goes through the rounds that its lines are for. -/
theorem rounds_of_faces (faces : session.Faces store lines written flushes) :
    ∃ calculations after, session.Rounds calculations (.ok (), after) ∧
      calculations.map (·.expression) = expressions lines ∧ Answered store calculations ∧
      after.Faces ((expressions lines).foldl storeAfter store) (afterRounds lines)
        (written ++ calculations.flatMap Calculation.turn ++
          Text.encode (roundsEnd (lastRound lines) lines.length))
        (flushes + min (2 * lastRound lines) (lines.length + 1)) := by
  -- two lines make a round, so the induction is on the definition of the last round
  induction lines using lastRound.induct generalizing session store written flushes with
  | case1 =>
    obtain ⟨after, asked, reached⟩ := ask_faces_none faces expressionPrompt
    refine ⟨[], after, .finished asked, rfl, .done store, ?_⟩
    rw [List.flatMap_nil, List.append_nil]
    exact reached
  | case2 expression =>
    obtain ⟨calculation, between, typed, rfl, asked, calculated, shown, left⟩ :=
      turn_of_faces faces
    obtain ⟨after, answered, reached⟩ := confirm_faces_none left againQuestion
    refine ⟨[calculation], after, .declined asked calculated answered, ?_, .next shown (.done _),
      ?_⟩
    · rw [expressions, List.map_singleton, typed]
    · have ended : roundsEnd 1 1 = "\n" := rfl
      have flushed : flushes + min (2 * 1) (1 + 1) = flushes + 1 + 1 := by omega
      rw [lastRound, afterRounds, expressions, ← typed, List.flatMap_singleton, Calculation.turn,
        List.length_singleton, flushed, ended]
      simpa only [Text.encode_append, List.append_assoc, List.foldl_cons, List.foldl_nil]
        using reached
  | case3 expression answer lines agrees ih =>
    obtain ⟨calculation, between, typed, rfl, asked, calculated, shown, left⟩ :=
      turn_of_faces faces
    obtain ⟨middle, answered, onward⟩ := confirm_faces_some left againQuestion
    rw [agrees] at answered
    obtain ⟨calculations, after, others, typedLater, replies, reached⟩ := ih onward
    refine ⟨calculation :: calculations, after, .agreed asked calculated answered others, ?_,
      .next shown replies, ?_⟩
    · rw [expressions, if_pos agrees, List.map_cons, typed, typedLater]
    · have flushed : flushes + min (2 * (lastRound lines + 1)) (lines.length + 1 + 1 + 1) =
          flushes + 1 + 1 + min (2 * lastRound lines) (lines.length + 1) := by omega
      rw [lastRound, if_pos agrees, afterRounds, if_pos agrees, expressions, if_pos agrees,
        ← typed, List.length_cons, List.length_cons, flushed, roundsEnd_succ, List.flatMap_cons,
        Calculation.turn]
      simpa only [List.append_assoc, List.foldl_cons] using reached
  | case4 expression answer lines declines =>
    obtain ⟨calculation, between, typed, rfl, asked, calculated, shown, left⟩ :=
      turn_of_faces faces
    obtain ⟨after, answered, reached⟩ := confirm_faces_some left againQuestion
    rw [Bool.eq_false_iff.mpr declines] at answered
    refine ⟨[calculation], after, .declined asked calculated answered, ?_, .next shown (.done _),
      ?_⟩
    · rw [expressions, if_neg declines, List.map_singleton, typed]
    · have ended : roundsEnd 1 (lines.length + 1 + 1) = "" := if_pos (by omega)
      have flushed : flushes + min (2 * 1) (lines.length + 1 + 1 + 1) = flushes + 1 + 1 := by omega
      have nothing : Text.encode "" = [] := rfl
      rw [lastRound, if_neg declines, afterRounds, if_neg declines, expressions, if_neg declines,
        ← typed, List.flatMap_singleton, Calculation.turn, List.length_cons, List.length_cons,
        flushed, ended, nothing, List.append_nil]
      simpa only [List.append_assoc, List.foldl_cons, List.foldl_nil] using reached

/-- A dialogue goes through the rounds that its lines are for, and offers the history. -/
theorem run_of_faces (faces : session.Faces store lines written flushes) :
    ∃ after left, session.run = (.ok (), after) ∧
      session.calculations.map (·.expression) = expressions lines ∧
      Answered store session.calculations ∧
      (left = (expressions lines).foldl storeAfter store ∨
        left = (Store.readAll ((expressions lines).foldl storeAfter store)).store) ∧
      after.Faces left (lines.drop (2 * lastRound lines + 1))
        (written ++ Text.encode (welcome ++ "\n") ++
          session.calculations.flatMap Calculation.turn ++
          Text.encode (roundsEnd (lastRound lines) lines.length) ++ Text.encode historyQuestion ++
          Text.encode (offerReply ((expressions lines).foldl storeAfter store)
            lines[2 * lastRound lines]?))
        (flushes + min (2 * lastRound lines) (lines.length + 1) + 1) := by
  obtain ⟨opened, greeted, welcomed⟩ := line_faces faces welcome
  obtain ⟨calculations, middle, rounds, typed, replies, went⟩ := rounds_of_faces welcomed
  obtain ⟨after, ended, left, same, reached⟩ := ending_faces went
  obtain ⟨made, finished⟩ := rounds.eq
  have all : session.calculations = calculations := by
    rw [Session.calculations, opening, greeted]
    exact made
  rw [afterRounds_eq_drop, List.tail_drop, List.head?_drop] at reached
  refine ⟨after, left, ?_, ?_, ?_, same, ?_⟩
  · rw [Session.run, opening, greeted]
    simp only [Ending.andThen, finished, ended]
  · rw [all, typed]
  · rw [all]
    exact replies
  · rw [all]
    exact reached

end Dialogue

open Dialogue

/-- The answers alone decide how much of a text is read: the rounds end with the first answer that
is missing or does not say yes, whatever the expressions are and whatever becomes of the history.
All is read up to the answer to the offer of the history, and every prompt is flushed once: two for
each round and one for the offer, but for the question of a last round without an expression. A
calculation writes the error of its expression or the result, and after the result what its store
answered; the offer is followed by the history or the error of the store if the answer agrees, and
by the farewell. -/
theorem Session.run_of_answers [Store σ] (store : σ) (input : String) :
    let lines := Text.lines input
    let session := start (.ofInput (Text.encode input)) store
    let left := (session.calculations.map (·.expression)).foldl storeAfter store
    ∃ rounds after,
      (1 ≤ rounds ∧ Declines lines rounds ∧
        ∀ earlier, 1 ≤ earlier → earlier < rounds → ¬ Declines lines earlier) ∧
      session.run = (.ok (), after) ∧
      Text.encode input =
        (lines.take (2 * rounds + 1)).flatMap Text.encode ++ after.terminal.unread ∧
      after.terminal.flushes ≤ lines.length + 2 ∧
      Answered store session.calculations ∧
      (2 * rounds - 1 ≤ lines.length →
        session.calculations.map (some ·.expression) =
            (List.range rounds).map (fun round => lines[2 * round]?.map withoutLineEnd) ∧
          after.terminal.flushes = 2 * rounds + 1 ∧
          after.terminal.written =
            Text.encode (welcome ++ "\n") ++ session.calculations.flatMap Calculation.turn ++
              Text.encode (if 2 * rounds ≤ lines.length then "" else "\n") ++
              Text.encode historyQuestion ++
              Text.encode (offerReply left lines[2 * rounds]?)) ∧
      (lines.length < 2 * rounds - 1 →
        lines.length = 2 * rounds - 2 ∧
          session.calculations.map (some ·.expression) =
            (List.range (rounds - 1)).map (fun round => lines[2 * round]?.map withoutLineEnd) ∧
          after.terminal.unread = [] ∧
          after.terminal.flushes = 2 * rounds ∧
          after.terminal.written =
            Text.encode (welcome ++ "\n") ++ session.calculations.flatMap Calculation.turn ++
              Text.encode (expressionPrompt ++ "\n") ++ Text.encode historyQuestion ++
              Text.encode (offerReply left none)) := by
  intro lines session left
  have faces : session.Faces store lines [] 0 := start_faces store input
  obtain ⟨after, kept, ended, typed, replies, -, reached⟩ := run_of_faces faces
  have counted := one_le_lastRound lines
  have pairs := lastRound_le lines
  have typedLines := map_some_expressions lines
  have same : left = (expressions lines).foldl storeAfter store := by rw [← typed]
  rw [← same] at reached
  rw [← typed, List.map_map] at typedLines
  have unread : after.terminal.unread =
      (lines.drop (2 * lastRound lines + 1)).flatMap Text.encode := by
    rw [reached.terminal]
    rfl
  have flushed : after.terminal.flushes =
      min (2 * lastRound lines) (lines.length + 1) + 1 := by
    rw [reached.terminal]
    exact congrArg (· + 1) (Nat.zero_add _)
  have written : after.terminal.written =
      Text.encode (welcome ++ "\n") ++ session.calculations.flatMap Calculation.turn ++
        Text.encode (roundsEnd (lastRound lines) lines.length) ++ Text.encode historyQuestion ++
        Text.encode (offerReply left lines[2 * lastRound lines]?) := by
    rw [reached.terminal]
    rfl
  refine ⟨lastRound lines, after, ⟨counted, declines_lastRound lines,
    fun earlier => not_declines_of_lt_lastRound⟩, ended, ?_, by omega, replies,
    fun expression => ?_, fun missing => ?_⟩
  · rw [unread, ← List.flatMap_append, List.take_append_drop, Text.flatMap_lines]
  · have count : expressionCount lines = lastRound lines := by
      rw [expressionCount]
      omega
    have last : roundsEnd (lastRound lines) lines.length =
        if 2 * lastRound lines ≤ lines.length then "" else "\n" := by
      have inside : 2 * lastRound lines ≤ lines.length + 1 := by omega
      simp only [roundsEnd, inside, if_true]
    rw [count] at typedLines
    rw [last] at written
    exact ⟨typedLines, by omega, written⟩
  · have count : expressionCount lines = lastRound lines - 1 := by
      rw [expressionCount]
      omega
    have last : roundsEnd (lastRound lines) lines.length = expressionPrompt ++ "\n" := by
      rw [roundsEnd, if_neg (by omega), if_neg (by omega)]
    have nothing : lines.drop (2 * lastRound lines + 1) = [] :=
      List.drop_eq_nil_of_le (by omega)
    have unanswered : lines[2 * lastRound lines]? = none :=
      List.getElem?_eq_none (by omega)
    rw [count] at typedLines
    rw [last, unanswered] at written
    rw [nothing] at unread
    exact ⟨by omega, typedLines, unread, by omega, written⟩

end Calculator
