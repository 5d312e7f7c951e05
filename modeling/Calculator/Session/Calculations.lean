import Calculator.Session.Transcript

/-!
# The calculations of a dialogue

Every round of a dialogue that gets an expression makes a calculation. A calculation is the
expression together with the session in which it is carried out, so what it writes and saves can be
told apart from what the rest of the dialogue does. The output may end anywhere in what a
calculation writes; only lines that were written with their line feeds count.
-/

namespace Calculator

open History (Entry Store)

variable {σ : Type}

/-- No round follows the one of this number, counted from one: its answer is missing or does not
say yes. The lines are expressions and answers by turns. -/
def Dialogue.Declines (lines : List String) (round : Nat) : Prop :=
  ∀ answer, lines[2 * round - 1]? = some answer → saysYes answer = false

/-- The expression of an entry, and the line that shows its result. -/
def Dialogue.resultShown (entry : Entry) : String × List UInt8 :=
  (entry.expression, Text.encode (resultLine entry.result))

/-- The start of every line that shows a result. -/
def Dialogue.resultMark : List UInt8 := Text.encode (resultLine "")

/-- The lines of some bytes that have their line feeds, without them. -/
def Terminal.fullLines (bytes : List UInt8) : List (List UInt8) :=
  (bytes.splitOn lineFeed).dropLast

/-- An expression, and the session in which it is calculated. -/
structure Calculation (σ : Type) where
  /-- The expression. -/
  expression : String
  /-- The session before the calculation. -/
  before : Session σ

namespace Calculation

variable [Store σ] (calculation : Calculation σ)

/-- How the calculation ends. -/
def ending : Ending σ Unit :=
  (Dialogue.calculate calculation.expression).run calculation.before

/-- What the calculation writes. -/
def shown : List UInt8 :=
  calculation.ending.2.terminal.written.drop calculation.before.terminal.written.length

/-- The prompt for the expression, what the calculation writes, and the question after it. -/
def turn : List UInt8 :=
  Text.encode Dialogue.expressionPrompt ++ calculation.shown ++
    Text.encode Dialogue.againQuestion

/-- The lines that the calculation writes in full. -/
def lines : List (List UInt8) := Terminal.fullLines calculation.shown

/-- Those of them that show a result, each with the expression. -/
def results : List (String × List UInt8) :=
  (calculation.lines.filter Dialogue.resultMark.isPrefixOf).map (calculation.expression, ·)

/-- Calculations one after another, the first of them with some store: each writes what follows its
expression with the store that those before it left. -/
inductive Answered : σ → List (Calculation σ) → Prop where
  /-- No calculation is left. -/
  | done (store : σ) : Answered store []
  /-- A calculation writes its reply, and others follow. -/
  | next {calculation : Calculation σ} {others : List (Calculation σ)} :
    calculation.shown =
        Text.encode (Dialogue.replyWith calculation.before.store calculation.expression) →
      Answered (Dialogue.storeAfter calculation.before.store calculation.expression) others →
        Answered calculation.before.store (calculation :: others)

end Calculation

/-- How many lines say that a result was saved, of those that calculations write in full. -/
def confirmations [Store σ] (calculations : List (Calculation σ)) : Nat :=
  (calculations.flatMap Calculation.lines).count (Text.encode Dialogue.savedLine)

namespace Session

variable [Store σ]

/-- The calculation that a round starts with, unless there is no expression. -/
def nextCalculation (session : Session σ) : Option (Calculation σ) :=
  match (Dialogue.ask Dialogue.expressionPrompt).run session with
  | (.ok (some expression), asked) => some ⟨expression, asked⟩
  | _ => none

/-- The calculations of the rounds that `runRounds` goes through. -/
def roundCalculations (session : Session σ) : List (Calculation σ) :=
  session.nextCalculation.toList ++
    match _ended : Dialogue.round.run session with
    | (.ok true, after) => after.roundCalculations
    | _ => []
termination_by session.unreadCount
decreasing_by exact unreadCount_of_round _ended

/-- The calculations of a whole dialogue. -/
def calculations (session : Session σ) : List (Calculation σ) :=
  match Dialogue.opening.run session with
  | (.ok (), opened) => opened.roundCalculations
  | (.error _, _) => []

end Session

end Calculator
