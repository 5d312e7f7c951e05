import Calculator.Proofs.Expression.Classification
import Calculator.Proofs.Session.Record
import Calculator.Proofs.Session.Transcript
import Calculator.Session.Replay

/-!
# A history can be typed again

Whatever a dialogue is answered, it adds only entries that calculations have saved: this holds of
its script part by part (`Script.Adheres`), and so of any number of dialogues on terminals with any
faults. Such entries can be typed again, and a dialogue in which they are saves the same entries
(`Dialogue.saved_retyped`). So a history that dialogues have made from nothing is made again by
typing it (`history_replays`).
-/

namespace Calculator

open History (Entry FileStore Keeps MemoryStore Store memory_keeps performAll)

variable {σ τ α β : Type}

/-! ## Lines -/

namespace Terminal

/-- A line feed can only be the last byte of a line. -/
theorem notMem_dropLast_splitLine (bytes : List UInt8) :
    lineFeed ∉ (splitLine bytes).1.dropLast := by
  induction bytes with
  | nil => exact List.not_mem_nil
  | cons byte bytes ih =>
    rw [splitLine]
    split
    · exact List.not_mem_nil
    · rename_i other
      cases line : (splitLine bytes).1 with
      | nil => simp [line]
      | cons next rest =>
        rw [line] at ih
        dsimp only
        rw [line, List.dropLast_cons_cons, List.mem_cons, not_or]
        exact ⟨Ne.symm other, ih⟩

/-- A line feed can only be the last character of a line that is read. -/
theorem notMem_dropLast_of_readLine {terminal : Terminal} {line : String}
    (read : terminal.readLine.1 = .ok (some line)) : '\n' ∉ line.toList.dropLast := by
  have bytes : Text.encode line = (splitLine terminal.unread).1 := by
    rw [readLine_eq] at read
    dsimp only at read
    split at read
    · cases read
    · rw [lineOf] at read
      split at read
      · cases read
      · cases decoded : Text.decode? (splitLine terminal.unread).1 with
        | none =>
          rw [decoded] at read
          cases read
        | some text =>
          rw [decoded] at read
          cases read
          exact Text.encode_of_decode? decoded
  intro member
  have single := notMem_dropLast_splitLine terminal.unread
  obtain ⟨first, last, characters⟩ : ∃ first last, line.toList = first ++ [last] :=
    ⟨_, _, (List.dropLast_concat_getLast (List.ne_nil_of_mem
      (List.dropLast_subset _ member))).symm⟩
  rw [characters, List.dropLast_concat] at member
  rw [← bytes, Text.encode, characters, List.flatMap_append, List.flatMap_singleton,
    List.dropLast_append_of_ne_nil (by simp)] at single
  exact single (List.mem_append_left _ (List.mem_flatMap.mpr ⟨'\n', member, by decide⟩))

end Terminal

namespace Dialogue

/-- A line without its end can be typed. -/
theorem typable_withoutLineEnd {line : String} (single : '\n' ∉ line.toList.dropLast) :
    Typable (withoutLineEnd line) := by
  obtain ⟨lineEnd, whole, -, last⟩ := withoutLineEnd_spec line
  refine ⟨fun member => single ?_, fun ended => (last '\r' ended).2 rfl⟩
  -- the line feed is not the last character of the expression, so it is not that of the line
  obtain ⟨first, final, characters⟩ : ∃ first final,
      (withoutLineEnd line).toList = first ++ [final] :=
    ⟨_, _, (List.dropLast_concat_getLast (List.ne_nil_of_mem member)).symm⟩
  have other : final ≠ '\n' := (last final (by rw [characters, List.getLast?_concat])).1
  rw [characters, List.mem_append, List.mem_singleton] at member
  have inside : '\n' ∈ first := member.resolve_right fun same => other same.symm
  rw [whole, String.toList_append, characters, List.append_assoc,
    List.dropLast_append_of_ne_nil (by simp)]
  exact List.mem_append_left _ inside

/-- An expression that can be typed is taken as it stands. -/
theorem withoutLineEnd_of_typable {expression : String} (typable : Typable expression) :
    withoutLineEnd (expression ++ "\n") = expression := by
  have characters : (expression ++ "\n").toList.reverse = '\n' :: expression.toList.reverse := by
    simp
  have kept : expression.toList.reverse.dropWhile endsLine = expression.toList.reverse := by
    cases reversed : expression.toList.reverse with
    | nil => rfl
    | cons last rest =>
      have final : expression.toList.getLast? = some last := by
        rw [← List.head?_reverse, reversed]
        rfl
      have feed : last ≠ '\n' := fun same =>
        typable.single (same ▸ List.mem_of_getLast? final)
      have carriage : last ≠ '\r' := fun same => typable.unended (same ▸ final)
      exact List.dropWhile_cons_of_neg (by simp [endsLine, feed, carriage])
  rw [withoutLineEnd, characters, List.dropWhile_cons_of_pos (by decide), kept,
    List.reverse_reverse, String.ofList_toList]

end Dialogue

/-! ## Scripts that add entries of a kind -/

/-- A script that adds only entries of one kind and gives only values of another, provided that the
lines that it reads have no line feed before their end. -/
def Script.Adheres (Adds : Entry → Prop) (Gives : α → Prop) : Script α → Prop
  | .done value => Gives value
  | .write _ next => next.Adheres Adds Gives
  | .flush next => next.Adheres Adds Gives
  | .readLine next => ∀ answer, (∀ line, answer = some line → '\n' ∉ line.toList.dropLast) →
      (next answer).Adheres Adds Gives
  | .append entry next => Adds entry ∧ ∀ result, (next result).Adheres Adds Gives
  | .readAll next => ∀ result, (next result).Adheres Adds Gives
  | .note _ next => next.Adheres Adds Gives

namespace Script.Adheres

variable {Adds : Entry → Prop} {Gives : α → Prop}

/-- Scripts one after another add what each of them adds. -/
theorem bind {Ends : β → Prop} {script : Script α} {following : α → Script β}
    (first : script.Adheres Adds Gives)
    (rest : ∀ value, Gives value → (following value).Adheres Adds Ends) :
    (script >>= following).Adheres Adds Ends := by
  change (script.andThen following).Adheres Adds Ends
  induction script with
  | done value => exact rest value first
  | write text next ih => exact ih first
  | flush next ih => exact ih first
  | readLine next ih => exact fun answer single => ih answer (first answer single)
  | append entry next ih => exact ⟨first.1, fun result => ih result (first.2 result)⟩
  | readAll next ih => exact fun result => ih result (first result)
  | note notice next ih => exact ih first

variable [Store σ] {Holds : σ → List Entry → Prop}

/-- A script adds entries of its kind to a store that keeps such entries, whatever the terminal
does. -/
theorem run {script : Script α} (adheres : script.Adheres Adds Gives) (keeps : Keeps Holds)
    {session : Session σ}
    (held : ∃ entries, Holds session.store entries ∧ ∀ entry ∈ entries, Adds entry) :
    ∃ entries, Holds (script.run session).2.store entries ∧ ∀ entry ∈ entries, Adds entry := by
  induction script generalizing session with
  | done value => exact held
  | write text next ih =>
    simp only [Script.run, Session.withTerminal]
    cases (session.terminal.write text).1 with
    | error fault => exact held
    | ok value => exact ih adheres held
  | flush next ih =>
    simp only [Script.run, Session.withTerminal]
    cases (session.terminal.flush).1 with
    | error fault => exact held
    | ok value => exact ih adheres held
  | readLine next ih =>
    simp only [Script.run, Session.withTerminal]
    cases read : (session.terminal.readLine).1 with
    | error fault => exact held
    | ok answer =>
      refine ih answer (adheres answer fun line given => ?_) held
      exact Terminal.notMem_dropLast_of_readLine (given ▸ read)
  | append entry next ih =>
    obtain ⟨entries, heldEntries, genuine⟩ := held
    refine ih _ (adheres.2 _) ⟨entries ++ [entry], (keeps.append heldEntries entry).2, ?_⟩
    intro other member
    rcases List.mem_append.mp member with earlier | latest
    · exact genuine other earlier
    · exact List.mem_singleton.mp latest ▸ adheres.1
  | readAll next ih =>
    obtain ⟨entries, heldEntries, genuine⟩ := held
    exact ih _ (adheres _) ⟨entries, (keeps.readAll heldEntries).2, genuine⟩
  | note notice next ih => exact ih adheres held

end Script.Adheres

/-! ## What a dialogue adds -/

namespace Dialogue

/-- A line adds nothing. -/
theorem line_adheres {Adds : Entry → Prop} (text : String) :
    (line text).Adheres Adds fun _ => True := trivial

/-- Reports add nothing. -/
theorem noteAll_adheres {Adds : Entry → Prop} (notices : List Notice) :
    (noteAll notices).Adheres Adds fun _ => True := by
  induction notices with
  | nil => trivial
  | cons notice notices ih => exact ih

/-- A prompt is answered by an expression that can be typed. -/
theorem ask_adheres {Adds : Entry → Prop} (prompt : String) :
    (ask prompt).Adheres Adds fun answer =>
      ∀ expression, answer = some expression → Typable expression := by
  intro answer single
  cases answer with
  | none => exact nofun
  | some line =>
    rintro expression ⟨⟩
    exact typable_withoutLineEnd (single line rfl)

/-- A question adds nothing. -/
theorem confirm_adheres {Adds : Entry → Prop} (question : String) :
    (confirm question).Adheres Adds fun _ => True := by
  refine (ask_adheres question).bind fun answer _ => ?_
  cases answer <;> trivial

/-- An expression that can be typed is added with its value. -/
theorem calculate_adheres {expression : String} (typable : Typable expression) :
    (calculate expression).Adheres Calculated fun _ => True := by
  refine (noteAll_adheres _).bind fun _ _ => ?_
  cases outcome : (Evaluation.ofText expression).outcome with
  | error error => trivial
  | ok found =>
    have evaluated : evaluate expression = .ok found.1 := by
      rw [evaluate, outcome]
      rfl
    refine (line_adheres _).bind fun _ _ => ⟨⟨typable, found.1, evaluated, ?_, rfl⟩, ?_⟩
    · exact (evaluate_eq_ok_iff.mp evaluated).1
    · intro result
      cases result <;> trivial

/-- A round adds its expression with its value, if anything. -/
theorem round_adheres : round.Adheres Calculated fun _ => True := by
  refine (ask_adheres expressionPrompt).bind fun answer typable => ?_
  cases answer with
  | none => trivial
  | some expression =>
    exact (calculate_adheres (typable expression rfl)).bind fun _ _ => confirm_adheres againQuestion

/-- Rounds add expressions with their values. -/
theorem rounds_adheres (count : Nat) : (rounds count).Adheres Calculated fun _ => True := by
  induction count with
  | zero => trivial
  | succ count ih =>
    refine round_adheres.bind fun again _ => ?_
    cases again with
    | false => trivial
    | true => exact ih

/-- Showing the history adds nothing. -/
theorem showHistory_adheres {Adds : Entry → Prop} :
    showHistory.Adheres Adds fun _ => True := by
  intro found
  match found with
  | .error error => trivial
  | .ok [] => trivial
  | .ok (entry :: entries) =>
    refine (line_adheres historyHeader).bind fun _ _ => ?_
    induction entry :: entries with
    | nil => trivial
    | cons entry entries ih => exact (line_adheres _).bind fun _ _ => ih

/-- A dialogue adds expressions with their values. -/
theorem upTo_adheres (count : Nat) : (upTo count).Adheres Calculated fun _ => True := by
  refine (line_adheres welcome).bind fun _ _ => ?_
  refine (rounds_adheres count).bind fun _ _ => ?_
  refine (confirm_adheres historyQuestion).bind fun agreed _ => ?_
  cases agreed with
  | false => trivial
  | true => exact showHistory_adheres.bind fun _ _ => line_adheres farewell

end Dialogue

/-- Dialogues leave a store that keeps a list with entries that calculations have saved, if it had
only such entries. -/
theorem calculated_of_performAll [Store σ] {Holds : σ → List Entry → Prop} (keeps : Keeps Holds)
    {store : σ} (terminals : List Terminal)
    (held : ∃ entries, Holds store entries ∧ ∀ entry ∈ entries, Dialogue.Calculated entry) :
    ∃ entries, Holds (performAll store (terminals.map .dialogue)) entries ∧
      ∀ entry ∈ entries, Dialogue.Calculated entry := by
  induction terminals generalizing store with
  | nil => exact held
  | cons terminal terminals ih =>
    refine ih ?_
    let session := Session.start terminal store
    change ∃ entries, Holds session.run.2.store entries ∧ _
    rw [session.run_eq_upTo (Nat.lt_succ_self _)]
    exact (Dialogue.upTo_adheres _).run keeps held

/-! ## Typing entries again -/

namespace Dialogue

/-- A single expression is followed by two refusals. -/
theorem lines_retyped_singleton {entry : Entry} (typable : Typable entry.expression) :
    Text.lines (retyped [entry]) = [entry.expression ++ "\n", "no\n", "no\n"] := by
  have input : retyped [entry] = entry.expression ++ "\n" ++ "no\nno\n" := by
    rw [retyped, List.map_cons, List.map_nil, String.intercalate_singleton]
  rw [input, Text.lines_append typable.single]
  rfl

/-- Between two expressions stands a yes. -/
theorem lines_retyped_cons_cons {first second : Entry} {entries : List Entry}
    (typable : Typable first.expression) :
    Text.lines (retyped (first :: second :: entries)) =
      (first.expression ++ "\n") :: "yes\n" :: Text.lines (retyped (second :: entries)) := by
  have input : retyped (first :: second :: entries) =
      first.expression ++ "\n" ++ ("yes" ++ "\n" ++ retyped (second :: entries)) := by
    simp only [retyped, List.map_cons, String.intercalate_cons_cons, String.append_assoc]
    rfl
  rw [input, Text.lines_append typable.single, Text.lines_append (by decide)]
  rfl

/-- An expression that can be typed is saved with its value, as it was. -/
theorem entryOf?_of_calculated {entry : Entry} (calculated : Calculated entry) :
    entryOf? (withoutLineEnd (entry.expression ++ "\n")) = some entry := by
  obtain ⟨value, evaluated, -, result⟩ := calculated.valued
  rw [withoutLineEnd_of_typable calculated.typable, entryOf?, evaluated]
  exact congrArg (fun result => some (⟨entry.expression, result⟩ : Entry)) result

/-- Entries that calculations have saved are saved again when they are typed. -/
theorem saved_retyped {entries : List Entry} (nonempty : entries ≠ [])
    (calculated : ∀ entry ∈ entries, Calculated entry) :
    saved (Text.lines (retyped entries)) = entries := by
  induction entries with
  | nil => exact absurd rfl nonempty
  | cons first entries ih =>
    obtain ⟨head, rest⟩ := List.forall_mem_cons.mp calculated
    cases entries with
    | nil =>
      have declined : saysYes "no\n" = false := by decide +kernel
      rw [lines_retyped_singleton head.typable, saved_cons_cons, entryOf?_of_calculated head,
        declined, if_neg Bool.false_ne_true]
      rfl
    | cons second entries =>
      have agreed : saysYes "yes\n" = true := by decide +kernel
      rw [lines_retyped_cons_cons head.typable, saved_cons_cons, entryOf?_of_calculated head,
        if_pos agreed, ih (List.cons_ne_nil _ _) rest]
      rfl

end Dialogue

/-- Dialogues that start from an empty store that keeps a list, on any terminals with any faults,
leave a history in which every entry is an expression that can be typed on a line, with the text of
its finite value. If there are any entries, typing their expressions in a dialogue without faults
and with an empty store makes the same history again. Both stores may be in memory or in a file. -/
theorem history_replays [Store σ] [Store τ] {Holds : σ → List Entry → Prop}
    {Others : τ → List Entry → Prop} (keeps : Keeps Holds) (keepsOthers : Keeps Others)
    {store : σ} {other : τ} (empty : Holds store []) (emptyOther : Others other [])
    (terminals : List Terminal) :
    ∃ entries,
      (Store.readAll (performAll store (terminals.map .dialogue))).result = .ok entries ∧
      (∀ entry ∈ entries, Dialogue.Calculated entry) ∧
      (entries ≠ [] →
        let again := (Session.start (.ofInput (Text.encode (Dialogue.retyped entries))) other).run
        again.1 = .ok () ∧ (Store.readAll again.2.store).result = .ok entries) := by
  obtain ⟨entries, held, calculated⟩ :=
    calculated_of_performAll keeps terminals ⟨[], empty, nofun⟩
  refine ⟨entries, (keeps.readAll held).1, calculated, fun nonempty => ?_⟩
  obtain ⟨after, ended, saved, -⟩ := Dialogue.run_of_keeps keepsOthers emptyOther
    (Session.start_faces other (Dialogue.retyped entries))
  rw [List.nil_append, Dialogue.saved_retyped nonempty calculated] at saved
  intro again
  have same : again = (.ok (), after) := ended
  rw [same]
  exact ⟨rfl, (keepsOthers.readAll saved).1⟩

/-- The first dialogue is cut off in the line that confirms its entry, and the second one ends with
the input. The expression that was typed with carriage returns and an unusual blank is typed again
without those at its end, and the entries are made again in a file that there was not before. -/
theorem history_replays_in_file :
    let entries : List Entry := [⟨"1\r+\u20032", "3.0"⟩, ⟨"5 - 2", "3.0"⟩]
    let terminals : List Terminal :=
      [⟨Text.encode "1\r+\u20032\r\r\nyes\n9 * 9\n", false, [], some 80, 0, none⟩,
        .ofInput (Text.encode "5 - 2")]
    let again := (Session.start
      (.ofInput (Text.encode "1\r+\u20032\nyes\n5 - 2\nno\nno\n"))
      (⟨⟨[0x68]⟩, ⟨[], []⟩⟩ : FileStore)).run
    (Store.readAll (performAll (MemoryStore.ofEntries []) (terminals.map .dialogue))).result =
        .ok entries ∧
      again.1 = .ok () ∧ (Store.readAll again.2.store).result = .ok entries := by
  intro entries terminals again
  have absent : FileStore.Holds ⟨[0x68]⟩ ⟨⟨[0x68]⟩, ⟨[], []⟩⟩ [] :=
    ⟨rfl, rfl, [], ⟨[([[0x68]], .file [])], []⟩, rfl⟩
  obtain ⟨found, left, -, replayed⟩ :=
    history_replays memory_keeps (FileStore.keeps ⟨[0x68]⟩) rfl absent terminals
  have course : ∀ first second : Terminal, first.unread.length < 30 → second.unread.length < 30 →
      performAll (MemoryStore.ofEntries []) [.dialogue first, .dialogue second] =
        ((Dialogue.upTo 30).run (.start second
          ((Dialogue.upTo 30).run (.start first (MemoryStore.ofEntries []))).2.store)).2.store := by
    intro first second enough enoughThen
    rw [← Session.run_eq_upTo (.start first _) enough, ← Session.run_eq_upTo _ enoughThen]
    rfl
  have saved : (Store.readAll (performAll (MemoryStore.ofEntries [])
      (terminals.map .dialogue))).result.toOption = some entries := by
    rw [List.map_cons, List.map_cons, List.map_nil, course _ _ (by decide) (by decide)]
    decide +kernel
  have same : found = entries := by
    rw [left] at saved
    exact Option.some.inj saved
  rw [same] at left replayed
  exact ⟨left, replayed (by decide)⟩

end Calculator
