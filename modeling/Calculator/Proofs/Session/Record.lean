import Calculator.Proofs.History.Refinement
import Calculator.Proofs.Session.Lockstep

/-!
# What is asked of a store

A store is used by requests and by whole dialogues, which ask for something at places of their
own. A recorded store writes down every request together with its answer. Recording changes
nothing: a dialogue with a recorded store is the dialogue with the store itself
(`performAll_recorded`), so a statement about the record is one about all that the dialogue was
answered.
-/

namespace Calculator

namespace History

variable {σ : Type}

/-- A store and what was asked of it so far, with the answers. -/
structure Recorded (σ : Type) where
  /-- The store. -/
  store : σ
  /-- The requests and their answers, in order. -/
  exchanges : List (Request × Answer)

namespace Recorded

/-- A store that nothing was asked of yet. -/
def ofStore (store : σ) : Recorded σ := ⟨store, []⟩

instance [Store σ] : Store (Recorded σ) where
  append recorded entry :=
    let outcome := Store.append recorded.store entry
    let exchange := (Request.append entry, Answer.appended outcome.result)
    ⟨outcome.result, ⟨outcome.store, recorded.exchanges ++ [exchange]⟩, outcome.notices⟩
  readAll recorded :=
    let outcome := Store.readAll recorded.store
    let exchange := (Request.readAll, Answer.entries outcome.result)
    ⟨outcome.result, ⟨outcome.store, recorded.exchanges ++ [exchange]⟩, outcome.notices⟩

end Recorded

/-- A way to use a store. -/
inductive Use where
  /-- A single request. -/
  | single (request : Request)
  /-- A whole dialogue on a terminal. -/
  | dialogue (terminal : Terminal)

/-- A store after it was used. -/
def Use.perform [Store σ] (store : σ) : Use → σ
  | .single request => (request.serve store).2
  | .dialogue terminal => (Session.start terminal store).run.2.store

/-- A store after it was used several times. -/
def performAll [Store σ] (store : σ) (uses : List Use) : σ := uses.foldl Use.perform store

variable [Store σ] {store : σ}

/-- What both operations of a store keep is kept by every use. -/
theorem performAll_keeps {Holds : σ → Prop}
    (append : ∀ {store}, Holds store → ∀ entry, Holds (Store.append store entry).store)
    (readAll : ∀ {store}, Holds store → Holds (Store.readAll store).store)
    (h : Holds store) (uses : List Use) : Holds (performAll store uses) := by
  induction uses generalizing store with
  | nil => exact h
  | cons use uses ih =>
    refine ih ?_
    cases use with
    | single request =>
      cases request with
      | append entry => exact append h entry
      | readAll => exact readAll h
    | dialogue terminal =>
      have kept : Kept fun session : Session σ => Holds session.store := .ofStore append readAll
      have start : Holds (Session.start terminal store).store := h
      exact kept.dialogue start

/-- A recorded store answers as the store itself does. -/
theorem recorded_answerAlike :
    AnswerAlike fun (recorded : Recorded σ) (store : σ) => recorded.store = store where
  append := by
    rintro recorded _ rfl entry
    exact ⟨rfl, rfl⟩
  readAll := by
    rintro recorded _ rfl
    exact ⟨rfl, rfl⟩

/-- Recording makes no difference to a store. -/
theorem performAll_recorded (recorded : Recorded σ) (uses : List Use) :
    (performAll recorded uses).store = performAll recorded.store uses := by
  induction uses generalizing recorded with
  | nil => rfl
  | cons use uses ih =>
    have once : (Use.perform recorded use).store = Use.perform recorded.store use := by
      cases use with
      | single request => cases request <;> rfl
      | dialogue terminal => exact (recorded_answerAlike.dialogue rfl terminal).2.2
    change (performAll (Use.perform recorded use) uses).store = performAll _ uses
    rw [ih, once]

end History

end Calculator
