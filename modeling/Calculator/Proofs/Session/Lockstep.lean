import Calculator.Proofs.Session.Course

/-!
# Two sessions side by side

Two sessions stay in step when every operation gives the same answer in both and leaves them in
step, or stops both. Then a script takes the same course in both, whatever their stores are and
however their terminals differ (`Lockstep.run`), and so does a dialogue (`Lockstep.dialogue`). In
particular a dialogue does not notice the difference between stores that answer alike
(`AnswerAlike.dialogue`).
-/

namespace Calculator

open History (Entry Store)

variable {σ τ α β : Type}

/-- Two endings in step: both sessions go on with one value, or both were stopped. -/
inductive InStep (Beside : Session σ → Session τ → Prop)
    (Stopped : TerminalFault → Session σ → TerminalFault → Session τ → Prop) :
    Ending σ α → Ending τ α → Prop where
  /-- Both go on. -/
  | goOn {first : Session σ} {second : Session τ} (value : α) (beside : Beside first second) :
    InStep Beside Stopped (.ok value, first) (.ok value, second)
  /-- Both were stopped, be it for different faults. -/
  | stop {fault other : TerminalFault} {first : Session σ} {second : Session τ}
      (stopped : Stopped fault first other second) :
    InStep Beside Stopped (.error fault, first) (.error other, second)

variable {Beside : Session σ → Session τ → Prop}
  {Stopped : TerminalFault → Session σ → TerminalFault → Session τ → Prop}

/-- Endings in step are gone on from in step. -/
theorem InStep.andThen {ending : Ending σ α} {other : Ending τ α}
    {following : α → Session σ → Ending σ β} {otherFollowing : α → Session τ → Ending τ β}
    (inStep : InStep Beside Stopped ending other)
    (next : ∀ value {first second}, Beside first second →
      InStep Beside Stopped (following value first) (otherFollowing value second)) :
    InStep Beside Stopped (ending.andThen following) (other.andThen otherFollowing) := by
  cases inStep with
  | goOn value beside => exact next value beside
  | stop stopped => exact .stop stopped

/-- Two sessions have the same terminal, and stores in some relation. -/
def SameTerminal (Alike : σ → τ → Prop) (first : Session σ) (second : Session τ) : Prop :=
  first.terminal = second.terminal ∧ Alike first.store second.store

/-- What is done to one terminal is done to the other. -/
theorem InStep.withTerminal {Alike : σ → τ → Prop} {first : Session σ} {second : Session τ}
    (alike : Alike first.store second.store) (result : Except TerminalFault α × Terminal) :
    InStep (SameTerminal Alike)
      (fun fault first other second => fault = other ∧ SameTerminal Alike first second)
      (first.withTerminal result) (second.withTerminal result) := by
  obtain ⟨answer, terminal⟩ := result
  cases answer with
  | error fault => exact .stop ⟨rfl, rfl, alike⟩
  | ok value => exact .goOn value ⟨rfl, alike⟩

variable [Store σ] [Store τ]

/-- Sessions that every operation leaves in step, or stops. -/
structure Lockstep (Beside : Session σ → Session τ → Prop)
    (Stopped : TerminalFault → Session σ → TerminalFault → Session τ → Prop) : Prop where
  /-- A text is written in both. -/
  write : ∀ {first second}, Beside first second → ∀ text,
    InStep Beside Stopped (first.withTerminal (first.terminal.write text))
      (second.withTerminal (second.terminal.write text))
  /-- Both are flushed. -/
  flush : ∀ {first second}, Beside first second →
    InStep Beside Stopped (first.withTerminal first.terminal.flush)
      (second.withTerminal second.terminal.flush)
  /-- A line is read in both. -/
  readLine : ∀ {first second}, Beside first second →
    InStep Beside Stopped (first.withTerminal first.terminal.readLine)
      (second.withTerminal second.terminal.readLine)
  /-- An entry is added in both, or refused for one cause. -/
  append : ∀ {first second}, Beside first second → ∀ entry,
    (Store.append first.store entry).result = (Store.append second.store entry).result ∧
      Beside (first.withOutcome (Store.append first.store entry))
        (second.withOutcome (Store.append second.store entry))
  /-- The same entries are given in both, or none for one cause. -/
  readAll : ∀ {first second}, Beside first second →
    (Store.readAll first.store).result = (Store.readAll second.store).result ∧
      Beside (first.withOutcome (Store.readAll first.store))
        (second.withOutcome (Store.readAll second.store))
  /-- Both get a report. -/
  note : ∀ {first second}, Beside first second → ∀ notice,
    Beside { first with log := first.log ++ [notice] } { second with log := second.log ++ [notice] }

namespace Lockstep

variable {first : Session σ} {second : Session τ}

/-- A script takes the same course in sessions that stay in step. -/
theorem run (lockstep : Lockstep Beside Stopped) (script : Script α)
    (beside : Beside first second) :
    InStep Beside Stopped (script.run first) (script.run second) := by
  induction script generalizing first second with
  | done value => exact .goOn value beside
  | write text next ih => exact (lockstep.write beside text).andThen fun _ => ih
  | flush next ih => exact (lockstep.flush beside).andThen fun _ => ih
  | readLine next ih => exact (lockstep.readLine beside).andThen ih
  | append entry next ih =>
    obtain ⟨same, after⟩ := lockstep.append beside entry
    simp only [Script.run, same]
    exact ih _ after
  | readAll next ih =>
    obtain ⟨same, after⟩ := lockstep.readAll beside
    simp only [Script.run, same]
    exact ih _ after
  | note notice next ih => exact ih (lockstep.note beside notice)

/-- A dialogue takes the same course in sessions that stay in step. -/
theorem dialogue (lockstep : Lockstep Beside Stopped) (beside : Beside first second) :
    InStep Beside Stopped first.run second.run := by
  have enoughFirst : first.unreadCount < first.unreadCount + second.unreadCount + 1 := by omega
  have enoughSecond : second.unreadCount < first.unreadCount + second.unreadCount + 1 := by omega
  rw [first.run_eq_upTo enoughFirst, second.run_eq_upTo enoughSecond]
  exact lockstep.run _ beside

end Lockstep

/-! ## Stores that answer alike -/

/-- A relation of stores that give the same answer to any request, and still do so afterwards. -/
structure AnswerAlike (Alike : σ → τ → Prop) : Prop where
  /-- An entry is added to both, or refused for one cause. -/
  append : ∀ {store other}, Alike store other → ∀ entry,
    (Store.append store entry).result = (Store.append other entry).result ∧
      Alike (Store.append store entry).store (Store.append other entry).store
  /-- The same entries are given by both, or none for one cause. -/
  readAll : ∀ {store other}, Alike store other →
    (Store.readAll store).result = (Store.readAll other).result ∧
      Alike (Store.readAll store).store (Store.readAll other).store

namespace AnswerAlike

variable {Alike : σ → τ → Prop} {store : σ} {other : τ}

/-- Sessions with the same terminal stay in step if their stores answer alike. -/
theorem lockstep (answers : AnswerAlike Alike) :
    Lockstep (SameTerminal Alike)
      fun fault first other second => fault = other ∧ SameTerminal Alike first second where
  write := by
    rintro first second ⟨terminal, alike⟩ text
    rw [terminal]
    exact .withTerminal alike _
  flush := by
    rintro first second ⟨terminal, alike⟩
    rw [terminal]
    exact .withTerminal alike _
  readLine := by
    rintro first second ⟨terminal, alike⟩
    rw [terminal]
    exact .withTerminal alike _
  append := by
    rintro first second ⟨terminal, alike⟩ entry
    obtain ⟨same, after⟩ := answers.append alike entry
    exact ⟨same, terminal, after⟩
  readAll := by
    rintro first second ⟨terminal, alike⟩
    obtain ⟨same, after⟩ := answers.readAll alike
    exact ⟨same, terminal, after⟩
  note := fun beside _ => beside

/-- Dialogues on one terminal end alike, on the same terminal, if their stores answer alike. -/
theorem dialogue (answers : AnswerAlike Alike) (alike : Alike store other) (terminal : Terminal) :
    (Session.start terminal store).run.1 = (Session.start terminal other).run.1 ∧
      SameTerminal Alike (Session.start terminal store).run.2
        (Session.start terminal other).run.2 := by
  have beside : SameTerminal Alike (Session.start terminal store) (Session.start terminal other) :=
    ⟨rfl, alike⟩
  have ended := answers.lockstep.dialogue beside
  generalize (Session.start terminal store).run = first at ended ⊢
  generalize (Session.start terminal other).run = second at ended ⊢
  cases ended with
  | goOn value beside => exact ⟨rfl, beside⟩
  | stop stopped =>
    obtain ⟨rfl, beside⟩ := stopped
    exact ⟨rfl, beside⟩

end AnswerAlike

end Calculator
