import Calculator.Proofs.Session.Terminal
import Calculator.Proofs.Text.Lines
import Calculator.Session.Transcript

/-!
# Dialogues without faults

On a terminal without faults every part of a dialogue ends well. A prompt is answered by the next
line, and all that is written is known from the lines and from what the store answers, which may be
anything. Each part leads from one session without faults to another (`Script.Leads`,
`Session.Faces`): a line less to read, more on the terminal, perhaps another store. The parts are put
together in `calculate_faces` and `ending_faces`.
-/

namespace Calculator

open History (Entry Store)

variable {σ α β : Type}

/-! ## Lines and answers -/

/-- A line is cut off before the line feeds and carriage returns at its end, and nowhere else. -/
theorem Dialogue.withoutLineEnd_spec (line : String) :
    ∃ lineEnd, line = withoutLineEnd line ++ lineEnd ∧
      (∀ c ∈ lineEnd.toList, c = '\n' ∨ c = '\r') ∧
      ∀ c, (withoutLineEnd line).toList.getLast? = some c → c ≠ '\n' ∧ c ≠ '\r' := by
  have parts := List.takeWhile_append_dropWhile (p := endsLine) (l := line.toList.reverse)
  refine ⟨String.ofList (line.toList.reverse.takeWhile endsLine).reverse, ?_, ?_, ?_⟩
  · rw [withoutLineEnd, ← String.ofList_append, ← List.reverse_append, parts, List.reverse_reverse,
      String.ofList_toList]
  · intro c member
    rw [String.toList_ofList, List.mem_reverse] at member
    have ends := List.all_eq_true.mp List.all_takeWhile c member
    simpa [endsLine] using ends
  · intro c last
    rw [withoutLineEnd, String.toList_ofList, List.getLast?_reverse] at last
    have other := List.head?_dropWhile_not endsLine line.toList.reverse
    rw [last] at other
    simpa [endsLine] using other

/-- An answer agrees if its line says yes. -/
theorem Dialogue.agrees_withoutLineEnd (line : String) :
    agrees (withoutLineEnd line) = saysYes line := by
  have lower : (withoutLineEnd line).toLower.toList =
      (withoutLineEnd line).toList.map Char.toLower := String.toList_map
  rw [Bool.eq_iff_iff, agrees, saysYes, beq_iff_eq, beq_iff_eq, ← String.toList_inj, lower]
  rfl

/-! ## Terminals without faults -/

/-- A terminal after it has written a text in full. -/
def Terminal.showing (terminal : Terminal) (text : String) : Terminal :=
  { terminal with written := terminal.written ++ Text.encode text }

/-- A terminal without faults ahead. -/
def Terminal.faultless (unread written : List UInt8) (flushes : Nat) : Terminal :=
  ⟨unread, false, written, none, flushes, none⟩

/-- Bytes of lines begin with the bytes of the first one. -/
theorem Text.AreLines.isLine {line : String} {lines : List String}
    (cut : AreLines (line :: lines)) :
    Terminal.IsLine (encode line) (lines.flatMap encode) := by
  cases cut with
  | last some unended =>
    exact ⟨fun member => notMem_encode unended ((List.dropLast_sublist _).subset member), .inr rfl⟩
  | next unended rest =>
    have bytes : ∀ text, encode (text ++ "\n") = encode text ++ [Terminal.lineFeed] :=
      fun text => encode_append text "\n"
    rw [bytes]
    refine ⟨?_, .inl List.getLast?_concat⟩
    rw [List.dropLast_concat]
    exact notMem_encode unended

/-- Lines are read one by one. -/
theorem Terminal.readLine_faultless {line : String} {lines : List String}
    (cut : Text.AreLines (line :: lines)) (written : List UInt8) (flushes : Nat) :
    (faultless ((line :: lines).flatMap Text.encode) written flushes).readLine =
      (.ok (some line), faultless (lines.flatMap Text.encode) written flushes) := by
  have split : splitLine (faultless ((line :: lines).flatMap Text.encode) written flushes).unread =
      (Text.encode line, lines.flatMap Text.encode) := by
    rw [faultless, List.flatMap_cons]
    exact splitLine_of_isLine cut.isLine
  have read : lineOf (Text.encode line) = .ok (some line) := by
    rw [lineOf, if_neg (Text.encode_ne_nil cut.ne_empty), Text.decode?_encode]
  rw [readLine_eq, split, read, if_neg (by simp [faultless])]
  rfl

/-! ## Where a dialogue stands -/

/-- A session without faults ahead that has a store and some lines to read, with what it wrote and
how often it was flushed. -/
structure Session.Faces (store : σ) (lines : List String) (written : List UInt8) (flushes : Nat)
    (session : Session σ) : Prop where
  /-- The terminal is without faults, and the lines are on it. -/
  terminal : session.terminal = .faultless (lines.flatMap Text.encode) written flushes
  /-- They are lines. -/
  cut : Text.AreLines lines
  /-- The store is this one. -/
  stored : session.store = store

/-- Reports change nothing of where a dialogue stands. -/
theorem Session.Faces.reported {store : σ} {lines : List String} {written : List UInt8}
    {flushes : Nat} {session : Session σ} (faces : session.Faces store lines written flushes)
    (log : List Notice) : Session.Faces store lines written flushes { session with log } :=
  ⟨faces.terminal, faces.cut, faces.stored⟩

/-- What is typed on a terminal without faults is where a dialogue starts. -/
theorem Session.start_faces (store : σ) (input : String) :
    (start (.ofInput (Text.encode input)) store).Faces store (Text.lines input) [] 0 := by
  refine ⟨?_, Text.areLines_linesOf _, rfl⟩
  rw [Text.flatMap_lines]
  rfl

/-- A script that ends well in a session, with a value and in a session of some kind. -/
def Script.Leads [Store σ] (script : Script α) (session : Session σ) (value : α)
    (After : Session σ → Prop) : Prop :=
  ∃ after, script.run session = (.ok value, after) ∧ After after

namespace Script.Leads

variable [Store σ] {session : Session σ}

/-- A script that goes on with another one leads where that one leads. -/
theorem bind {script : Script α} {following : α → Script β} {value : α} {result : β}
    {Between After : Session σ → Prop} (first : script.Leads session value Between)
    (second : ∀ {middle}, Between middle → (following value).Leads middle result After) :
    (script >>= following).Leads session result After := by
  obtain ⟨middle, ended, between⟩ := first
  obtain ⟨after, finished, reached⟩ := second between
  refine ⟨after, ?_, reached⟩
  rw [Script.run_bind, ended]
  exact finished

/-- A value changes nothing. -/
theorem pure {value : α} {After : Session σ → Prop} (h : After session) :
    (Pure.pure value : Script α).Leads session value After := ⟨session, rfl, h⟩

end Script.Leads

namespace Dialogue

variable [Store σ] {store : σ} {session : Session σ} {lines : List String} {written : List UInt8}
  {flushes : Nat}

/-! ## Asking -/

/-- A prompt is shown and flushed before a line is read. -/
theorem run_prompt (prompt : String) (next : Option String → Script α)
    (unread written : List UInt8) (flushes : Nat) (store : σ) (log : List Notice) :
    (Script.write prompt (.flush (.readLine next))).run
        ⟨.faultless unread written flushes, store, log⟩ =
      let prompted := Terminal.faultless unread (written ++ Text.encode prompt) (flushes + 1)
      (Session.withTerminal ⟨prompted, store, log⟩ prompted.readLine).andThen
        fun line => (next line).run := rfl

/-- At the end of the input a prompt is written and flushed, and its line is ended. -/
theorem run_ask_none (prompt : String) {session : Session σ} {written : List UInt8} {flushes : Nat}
    (terminal : session.terminal = .faultless [] written flushes) :
    (ask prompt).run session = (.ok none, { session with
      terminal := .faultless [] (written ++ Text.encode (prompt ++ "\n")) (flushes + 1) }) := by
  obtain ⟨_, store, log⟩ := session
  obtain rfl := terminal
  rw [ask, run_prompt, Text.encode_append, ← List.append_assoc]
  rfl

/-- A prompt is written and flushed, and the next line is read. -/
theorem run_ask_some (prompt : String) {line : String} (cut : Text.AreLines (line :: lines))
    {session : Session σ} {written : List UInt8} {flushes : Nat}
    (terminal : session.terminal =
      .faultless ((line :: lines).flatMap Text.encode) written flushes) :
    (ask prompt).run session = (.ok (some (withoutLineEnd line)), { session with
      terminal := .faultless (lines.flatMap Text.encode) (written ++ Text.encode prompt)
        (flushes + 1) }) := by
  obtain ⟨_, store, log⟩ := session
  obtain rfl := terminal
  have read := Terminal.readLine_faultless cut (written ++ Text.encode prompt) (flushes + 1)
  rw [ask, run_prompt]
  dsimp only
  rw [read]
  rfl

/-- At the end of the input a prompt is written and flushed, and its line is ended. -/
theorem ask_faces_none (faces : session.Faces store [] written flushes) (prompt : String) :
    (ask prompt).Leads session none
      (·.Faces store [] (written ++ Text.encode (prompt ++ "\n")) (flushes + 1)) :=
  ⟨_, run_ask_none prompt faces.terminal, rfl, faces.cut, faces.stored⟩

/-- A prompt is written and flushed, and a line is read. -/
theorem ask_faces_some {line : String}
    (faces : session.Faces store (line :: lines) written flushes) (prompt : String) :
    (ask prompt).Leads session (some (withoutLineEnd line))
      (·.Faces store lines (written ++ Text.encode prompt) (flushes + 1)) :=
  ⟨_, run_ask_some prompt faces.cut faces.terminal, rfl, faces.cut.tail, faces.stored⟩

/-- A question at the end of the input is not agreed to. -/
theorem confirm_faces_none (faces : session.Faces store [] written flushes) (question : String) :
    (confirm question).Leads session false
      (·.Faces store [] (written ++ Text.encode (question ++ "\n")) (flushes + 1)) :=
  (ask_faces_none faces question).bind fun faces => .pure faces

/-- A question is agreed to if the line says yes. -/
theorem confirm_faces_some {line : String}
    (faces : session.Faces store (line :: lines) written flushes) (question : String) :
    (confirm question).Leads session (saysYes line)
      (·.Faces store lines (written ++ Text.encode question) (flushes + 1)) := by
  rw [← agrees_withoutLineEnd]
  exact (ask_faces_some faces question).bind fun faces => .pure faces

/-! ## Calculating -/

/-- Reports are added to the log. -/
theorem run_noteAll (notices : List Notice) (session : Session σ) :
    (noteAll notices).run session = (.ok (), { session with log := session.log ++ notices }) := by
  induction notices generalizing session with
  | nil => rw [List.append_nil]; rfl
  | cons notice notices ih =>
    refine (ih _).trans ?_
    rw [List.append_assoc, List.singleton_append]

/-- A line is shown in full where any number of bytes can be written. -/
theorem run_line (text : String) {session : Session σ} (roomy : session.terminal.room = none) :
    (line text).run session =
      (.ok (), { session with terminal := session.terminal.showing (text ++ "\n") }) := by
  obtain ⟨⟨unread, inputFails, written, room, flushes, failingFlush⟩, store, log⟩ := session
  obtain rfl : room = none := roomy
  rfl

/-- An expression is evaluated, and the outcome is saved or refused. -/
theorem run_calculate (expression : String) (session : Session σ) :
    (calculate expression).run session =
      (match evaluate expression with
        | .error error => refuse (.expression error)
        | .ok value => save expression (Number.resultText value)).run
      { session with log := session.log ++ (Evaluation.ofText expression).notices } := by
  rw [calculate, Script.run_bind, run_noteAll, evaluate]
  cases (Evaluation.ofText expression).outcome <;> rfl

/-- An expression without a value is answered by its error, and leaves the store as it was. -/
theorem run_calculate_of_error {expression : String} {error : EvaluationError}
    (refused : evaluate expression = .error error) {session : Session σ}
    (roomy : session.terminal.room = none) :
    (calculate expression).run session =
      (.ok (), ⟨session.terminal.showing ("Error: " ++ error.message ++ "\n"), session.store,
        session.log ++ (Evaluation.ofText expression).notices ++ [.refused error.message]⟩) := by
  rw [run_calculate, refused]
  exact run_line (errorLine error.message) roomy

/-- A line is written. -/
theorem line_faces (faces : session.Faces store lines written flushes) (text : String) :
    (line text).Leads session ()
      (·.Faces store lines (written ++ Text.encode (text ++ "\n")) flushes) := by
  have roomy : session.terminal.room = none := by
    rw [faces.terminal]
    rfl
  exact ⟨_, run_line text roomy, congrArg (·.showing (text ++ "\n")) faces.terminal, faces.cut,
    faces.stored⟩

/-- An error is reported and written. -/
theorem refuse_faces (faces : session.Faces store lines written flushes) (refusal : Refusal) :
    (refuse refusal).Leads session ()
      (·.Faces store lines (written ++ Text.encode ("Error: " ++ refusal.message ++ "\n"))
        flushes) :=
  line_faces (faces.reported _) (errorLine refusal.message)

/-- The store is asked to add an entry. -/
theorem append_faces (faces : session.Faces store lines written flushes) (entry : Entry) :
    (Script.append entry .done).Leads session (Store.append store entry).result
      (·.Faces (Store.append store entry).store lines written flushes) := by
  obtain ⟨terminal, cut, rfl⟩ := faces
  exact ⟨_, rfl, terminal, cut, rfl⟩

/-- A result is written, and then what came of saving it. -/
theorem save_faces (faces : session.Faces store lines written flushes)
    (expression result : String) :
    (save expression result).Leads session ()
      (·.Faces (Store.append store ⟨expression, result⟩).store lines
        (written ++ Text.encode ("Result: " ++ result ++ "\n" ++
          savingReply (Store.append store ⟨expression, result⟩).result)) flushes) := by
  rw [Text.encode_append, ← List.append_assoc]
  refine (line_faces faces (resultLine result)).bind fun shown => ?_
  refine (append_faces shown ⟨expression, result⟩).bind fun added => ?_
  cases (Store.append store ⟨expression, result⟩).result with
  | error error => exact refuse_faces added (.history error)
  | ok done =>
    exact (line_faces added savedLine).bind fun confirmed => ⟨_, rfl, confirmed.reported _⟩

/-- An expression is evaluated, and its error or its result is written. -/
theorem calculate_faces (faces : session.Faces store lines written flushes)
    (expression : String) :
    (calculate expression).Leads session ()
      (·.Faces (storeAfter store expression) lines
        (written ++ Text.encode (replyWith store expression)) flushes) := by
  have course := run_calculate expression session
  have reported := faces.reported (session.log ++ (Evaluation.ofText expression).notices)
  rw [Script.Leads, storeAfter, entryOf?, replyWith, course]
  cases evaluate expression with
  | error error => exact refuse_faces reported (.expression error)
  | ok value => exact save_faces reported expression (Number.resultText value)

/-! ## The end -/

/-- Entries are written one by one. -/
theorem listEntries_faces (faces : session.Faces store lines written flushes)
    (entries : List Entry) :
    (listEntries entries).Leads session ()
      (·.Faces store lines (written ++ Text.encode (entryLines entries)) flushes) := by
  induction entries generalizing session written with
  | nil =>
    have nothing : written ++ Text.encode (entryLines []) = written := List.append_nil written
    rw [nothing]
    exact .pure faces
  | cons entry entries ih =>
    rw [entryLines, Text.encode_append, ← List.append_assoc]
    exact (line_faces faces (entryLine entry)).bind ih

/-- The store is asked for all entries. -/
theorem readAll_faces (faces : session.Faces store lines written flushes) :
    (Script.readAll .done).Leads session (Store.readAll store).result
      (·.Faces (Store.readAll store).store lines written flushes) := by
  obtain ⟨terminal, cut, rfl⟩ := faces
  exact ⟨_, rfl, terminal, cut, rfl⟩

/-- The history is written, or why it cannot be read. -/
theorem showHistory_faces (faces : session.Faces store lines written flushes) :
    showHistory.Leads session ()
      (·.Faces (Store.readAll store).store lines
        (written ++ Text.encode (historyReply (Store.readAll store).result)) flushes) := by
  refine (readAll_faces faces).bind fun read => ?_
  cases (Store.readAll store).result with
  | error error => exact refuse_faces read (.history error)
  | ok entries =>
    cases entries with
    | nil => exact line_faces read emptyHistoryLine
    | cons entry entries =>
      have header := line_faces read historyHeader
      rw [historyReply, listing, if_neg (List.cons_ne_nil entry entries), Text.encode_append,
        ← List.append_assoc]
      exact header.bind fun header => listEntries_faces header (entry :: entries)

/-- The history is offered, and written if the answer agrees. -/
theorem ending_faces (faces : session.Faces store lines written flushes) :
    ending.Leads session () fun after =>
      ∃ left, (left = store ∨ left = (Store.readAll store).store) ∧
        after.Faces left lines.tail
          (written ++ Text.encode historyQuestion ++ Text.encode (offerReply store lines.head?))
          (flushes + 1) := by
  cases lines with
  | nil =>
    refine (confirm_faces_none faces historyQuestion).bind fun offered => ?_
    obtain ⟨after, ended, reached⟩ := line_faces offered farewell
    refine ⟨after, ended, store, .inl rfl, ?_⟩
    simpa only [offerReply, List.head?_nil, List.tail_nil, Text.encode_append, List.append_assoc]
      using reached
  | cons answer lines =>
    refine (confirm_faces_some faces historyQuestion).bind fun offered => ?_
    cases agrees : saysYes answer with
    | false =>
      obtain ⟨after, ended, reached⟩ := line_faces offered farewell
      refine ⟨after, ended, store, .inl rfl, ?_⟩
      simpa [offerReply, agrees] using reached
    | true =>
      refine (showHistory_faces offered).bind fun listed => ?_
      obtain ⟨after, ended, reached⟩ := line_faces listed farewell
      refine ⟨after, ended, _, .inr rfl, ?_⟩
      simpa [offerReply, agrees, Text.encode_append] using reached

end Dialogue

end Calculator
