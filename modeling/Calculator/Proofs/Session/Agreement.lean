import Calculator.Proofs.History.Refinement
import Calculator.Proofs.Session.Lockstep
import Calculator.Session.Transcript

/-!
# Stores that keep the same list cannot be told apart

Two stores that keep one list answer every request alike (`Keeps.answerAlike`), so any dialogues
with them are the same to whoever types, watches the terminal and reads the history afterwards,
whatever faults the terminals have (`AnswerAlike.seen_runAll`). In particular a history in a file
that can be read and written might as well be in memory (`file_agrees_with_memory`).
-/

namespace Calculator

open History (Entry FileStore Keeps MemoryStore Store memory_keeps)

variable {σ τ : Type} [Store σ] [Store τ]

/-- What can be seen of a dialogue afterwards: how it ended, its terminal, and what reading the
history gives. -/
def Ending.seen (ending : Ending σ Unit) :
    Except TerminalFault Unit × Terminal × Except History.Error (List Entry) :=
  (ending.1, ending.2.terminal, (Store.readAll ending.2.store).result)

/-- Stores that keep the same list answer alike. -/
theorem History.Keeps.answerAlike {Holds : σ → List Entry → Prop} {Others : τ → List Entry → Prop}
    (keeps : Keeps Holds) (others : Keeps Others) :
    AnswerAlike fun store other => ∃ entries, Holds store entries ∧ Others other entries where
  append := by
    rintro store other ⟨entries, held, heldOther⟩ entry
    obtain ⟨result, after⟩ := keeps.append held entry
    obtain ⟨resultOther, afterOther⟩ := others.append heldOther entry
    exact ⟨result.trans resultOther.symm, _, after, afterOther⟩
  readAll := by
    rintro store other ⟨entries, held, heldOther⟩
    obtain ⟨result, after⟩ := keeps.readAll held
    obtain ⟨resultOther, afterOther⟩ := others.readAll heldOther
    exact ⟨result.trans resultOther.symm, _, after, afterOther⟩

namespace AnswerAlike

variable {Alike : σ → τ → Prop} {store : σ} {other : τ}

/-- One dialogue looks the same with stores that answer alike. -/
theorem seen_run (answers : AnswerAlike Alike) (alike : Alike store other) (terminal : Terminal) :
    Ending.seen (Session.start terminal store).run =
      Ending.seen (Session.start terminal other).run := by
  obtain ⟨ended, same, after⟩ := answers.dialogue alike terminal
  have content := (answers.readAll after).1
  simp only [Ending.seen, ended, same, content]

/-- Dialogues one after another look the same with stores that answer alike. -/
theorem seen_runAll (answers : AnswerAlike Alike) (alike : Alike store other)
    (terminals : List Terminal) :
    (Session.runAll store terminals).map Ending.seen =
      (Session.runAll other terminals).map Ending.seen := by
  induction terminals generalizing store other with
  | nil => rfl
  | cons terminal terminals ih =>
    have first := answers.seen_run alike terminal
    have after := (answers.dialogue alike terminal).2.2
    simp only [Session.runAll, List.map_cons, first, ih after]

end AnswerAlike

/-- A store holds some list, whichever it is. -/
def History.HoldsSome (Holds : σ → List Entry → Prop) (store : σ) : Prop :=
  ∃ entries, Holds store entries

open History (HoldsSome)

/-- A store that keeps lists holds one throughout a dialogue. -/
theorem History.Keeps.holdsSome {Holds : σ → List Entry → Prop} (keeps : Keeps Holds) :
    Kept fun session : Session σ => HoldsSome Holds session.store :=
  .ofStore (fun ⟨_, held⟩ entry => ⟨_, (keeps.append held entry).2⟩)
    (fun ⟨_, held⟩ => ⟨_, (keeps.readAll held).2⟩)

/-- A store that keeps lists holds one after each of several dialogues. -/
theorem holdsSome_of_mem_runAll {Holds : σ → List Entry → Prop} (keeps : Keeps Holds) {store : σ}
    (held : HoldsSome Holds store) {terminals : List Terminal} {ending : Ending σ Unit}
    (member : ending ∈ Session.runAll store terminals) : HoldsSome Holds ending.2.store := by
  induction terminals generalizing store with
  | nil => cases member
  | cons terminal terminals ih =>
    have start : HoldsSome Holds (Session.start terminal store).store := held
    have after := keeps.holdsSome.dialogue start
    rcases List.mem_cons.mp member with rfl | member
    · exact after
    · exact ih after member

/-- Dialogues with a history in a file that can be read and written are the dialogues with these
entries in memory, on any terminals with any faults: one by one they end alike, leave the same
terminal, its output, its flushes and what it has not read included, and leave the same entries,
which can be read. -/
theorem file_agrees_with_memory {path : Files.Path} {files written : Files.FileSystem}
    {entries : List Entry} {content : List UInt8}
    (found : (Store.readAll (⟨path, files⟩ : FileStore)).result = .ok entries)
    (writable : files.write path content = .ok written) (terminals : List Terminal) :
    (Session.runAll (⟨path, files⟩ : FileStore) terminals).map Ending.seen =
        (Session.runAll (MemoryStore.ofEntries entries) terminals).map Ending.seen ∧
      ∀ ending ∈ Session.runAll (MemoryStore.ofEntries entries) terminals,
        ∃ held, ending.2.store = MemoryStore.ofEntries held := by
  have held : FileStore.Holds path ⟨path, files⟩ entries := ⟨rfl, found, content, written, writable⟩
  have answers := (FileStore.keeps path).answerAlike memory_keeps
  exact ⟨answers.seen_runAll ⟨entries, held, rfl⟩ terminals,
    fun _ member => holdsSome_of_mem_runAll memory_keeps ⟨entries, rfl⟩ member⟩

/-- The output ends inside the line that confirms the first entry, and the second dialogue meets a
line that is not text: the file has the entry from before and the new one, as memory has. -/
theorem file_agrees_with_memory_when_cut :
    let file : FileStore :=
      ⟨⟨[0x68]⟩, ⟨[([[0x68]], .file (History.contentOf [⟨"1 + 1", "2.0"⟩]))], []⟩⟩
    let memory := MemoryStore.ofEntries [⟨"1 + 1", "2.0"⟩]
    let terminals : List Terminal :=
      [⟨Text.encode "1 + 2\nyes\n", false, [], some 78, 0, none⟩, ⟨[0xFF], true, [], none, 0, some 2⟩]
    (Session.runAll file terminals).map Ending.seen =
        (Session.runAll memory terminals).map Ending.seen ∧
      ((Session.runAll file terminals).map fun ending => (Ending.seen ending).2.2)[0]? =
        some (.ok [⟨"1 + 1", "2.0"⟩, ⟨"1 + 2", "3.0"⟩]) := by
  intro file memory terminals
  have content : ∀ bytes,
      (Store.readAll (⟨⟨[0x68]⟩, ⟨[([[0x68]], .file bytes)], []⟩⟩ : FileStore)).result =
        History.entriesOf bytes := fun _ => rfl
  have found : (Store.readAll file).result = .ok [⟨"1 + 1", "2.0"⟩] :=
    (content _).trans (History.entriesOf_contentOf _)
  have writable : ∀ content,
      (⟨[([[0x68]], .file content)], []⟩ : Files.FileSystem).write ⟨[0x68]⟩ [] =
        .ok ⟨[([[0x68]], .file [])], []⟩ := fun _ => rfl
  obtain ⟨agrees, inOrder⟩ :=
    file_agrees_with_memory found (writable _) terminals
  refine ⟨agrees, ?_⟩
  have contents := congrArg (List.map fun seen => seen.2.2) agrees
  rw [List.map_map, List.map_map] at contents
  refine (congrArg (·[0]?) contents).trans ?_
  obtain ⟨held, stored⟩ := inOrder _ List.mem_cons_self
  have saved : held = [⟨"1 + 1", "2.0"⟩, ⟨"1 + 2", "3.0"⟩] := by
    let session := Session.start
      ⟨Text.encode "1 + 2\nyes\n", false, [], some 78, 0, none⟩ memory
    have enough : session.unreadCount < 11 := by decide
    have course : session.run = _ := Session.run_eq_upTo session enough
    rw [course] at stored
    refine (congrArg MemoryStore.entries stored).symm.trans ?_
    decide +kernel
  change some (Store.readAll (Session.run _).2.store).result = _
  rw [stored, saved]
  rfl

end Calculator
