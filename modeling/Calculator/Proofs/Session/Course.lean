import Calculator.Session.Run

/-!
# A dialogue is one script

How many rounds a dialogue has depends on its input, but no input has more rounds than bytes. So
any session goes through its dialogue as one script does that has rounds enough
(`Session.run_eq_upTo`), and what holds of all scripts holds of dialogues. The first such law is
that of invariants: what every operation keeps is kept by a script (`Kept.run`) and hence by a
whole dialogue (`Kept.dialogue`).
-/

namespace Calculator

open History (Entry Store)

namespace Dialogue

/-- At most so many rounds, one after another as long as they end in agreement. -/
def rounds : Nat → Script Unit
  | 0 => .done ()
  | count + 1 => do
    if ← round then rounds count

/-- A whole dialogue of at most so many rounds. -/
def upTo (count : Nat) : Script Unit := do
  opening
  rounds count
  ending

end Dialogue

variable {σ α : Type} [Store σ]

namespace Session

/-- Rounds are a script for any number of them that the unread bytes do not exceed. -/
theorem runRounds_eq_rounds {count : Nat} (session : Session σ)
    (enough : session.unreadCount < count) :
    session.runRounds = (Dialogue.rounds count).run session := by
  induction count generalizing session with
  | zero => omega
  | succ count ih =>
    rw [runRounds, Dialogue.rounds, Script.run_bind]
    cases ended : Dialogue.round.run session with
    | mk result after =>
      cases result with
      | error fault => rfl
      | ok again =>
        cases again with
        | false => rfl
        | true =>
          have fewer := unreadCount_of_round ended
          exact ih after (by omega)

/-- A dialogue is a script with rounds for all bytes that are unread. -/
theorem run_eq_upTo {count : Nat} (session : Session σ) (enough : session.unreadCount < count) :
    session.run = (Dialogue.upTo count).run session := by
  rw [run, Dialogue.upTo, Script.run_bind]
  have opened := Script.unreadCount_run_le Dialogue.opening session
  cases begun : Dialogue.opening.run session with
  | mk result after =>
    rw [begun] at opened
    cases result with
    | error fault => rfl
    | ok value =>
      change after.runRounds.andThen _ = _
      have left : after.unreadCount < count := Nat.lt_of_le_of_lt opened enough
      rw [runRounds_eq_rounds after left, ← Script.run_bind]
      rfl

end Session

/-! ## Invariants -/

/-- A property of sessions that every operation keeps. -/
structure Kept (Holds : Session σ → Prop) : Prop where
  /-- Writing keeps it, whether the text fits or not. -/
  write : ∀ {session}, Holds session → ∀ text,
    Holds { session with terminal := (session.terminal.write text).2 }
  /-- Flushing keeps it, whether it fails or not. -/
  flush : ∀ {session}, Holds session → Holds { session with terminal := session.terminal.flush.2 }
  /-- Reading keeps it, whether there is a line or not. -/
  readLine : ∀ {session}, Holds session →
    Holds { session with terminal := session.terminal.readLine.2 }
  /-- Adding an entry keeps it. -/
  append : ∀ {session}, Holds session → ∀ entry,
    Holds (session.withOutcome (Store.append session.store entry))
  /-- Giving all entries keeps it. -/
  readAll : ∀ {session}, Holds session → Holds (session.withOutcome (Store.readAll session.store))
  /-- A report keeps it. -/
  note : ∀ {session}, Holds session → ∀ notice,
    Holds { session with log := session.log ++ [notice] }

namespace Kept

variable {Holds : Session σ → Prop} {session : Session σ}

/-- A script keeps what every operation keeps. -/
theorem run (kept : Kept Holds) (script : Script α) (h : Holds session) :
    Holds (script.run session).2 := by
  induction script generalizing session with
  | done value => exact h
  | write text next ih =>
    have after := kept.write h text
    simp only [Script.run, Session.withTerminal]
    cases (session.terminal.write text).1 with
    | error fault => exact after
    | ok value => exact ih after
  | flush next ih =>
    have after := kept.flush h
    simp only [Script.run, Session.withTerminal]
    cases (session.terminal.flush).1 with
    | error fault => exact after
    | ok value => exact ih after
  | readLine next ih =>
    have after := kept.readLine h
    simp only [Script.run, Session.withTerminal]
    cases (session.terminal.readLine).1 with
    | error fault => exact after
    | ok line => exact ih line after
  | append entry next ih => exact ih _ (kept.append h entry)
  | readAll next ih => exact ih _ (kept.readAll h)
  | note notice next ih => exact ih (kept.note h notice)

/-- A dialogue keeps what every operation keeps. -/
theorem dialogue (kept : Kept Holds) (h : Holds session) : Holds session.run.2 := by
  rw [session.run_eq_upTo (Nat.lt_succ_self _)]
  exact kept.run _ h

/-- A property of the store alone is kept if both of its operations keep it. -/
theorem ofStore {HoldsStore : σ → Prop}
    (append : ∀ {store}, HoldsStore store → ∀ entry, HoldsStore (Store.append store entry).store)
    (readAll : ∀ {store}, HoldsStore store → HoldsStore (Store.readAll store).store) :
    Kept fun session : Session σ => HoldsStore session.store where
  write := fun h _ => h
  flush := fun h => h
  readLine := fun h => h
  append := fun h entry => append h entry
  readAll := fun h => readAll h
  note := fun h _ => h

end Kept

end Calculator
