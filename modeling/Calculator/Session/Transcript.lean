import Calculator.Session.Run
import Calculator.Text.Lines

/-!
# What a dialogue is like

What is typed decides a dialogue with a history in order. Its lines are expressions and answers by
turns as long as the answers are yes; then comes the answer to the offer of the history. Each
expression that has a value is saved with it. What is seen is the transcript, all that is written
on the terminal from the greeting to the farewell. The input may end at any line. With a history
that may refuse what is asked of it, what is shown also depends on what its store answers.
-/

namespace Calculator

open History (Entry Store)

namespace Dialogue

/-! ## What is typed -/

/-- Whether a line says yes, in either case of its letters. -/
def saysYes (line : String) : Bool := (withoutLineEnd line).toLower == "yes"

/-- The expressions among the lines, without their line ends. -/
def expressions : List String → List String
  | [] => []
  | [expression] => [withoutLineEnd expression]
  | expression :: answer :: lines =>
    withoutLineEnd expression :: if saysYes answer then expressions lines else []

/-- The lines after the rounds. -/
def afterRounds : List String → List String
  | [] => []
  | [_] => []
  | _ :: answer :: lines => if saysYes answer then afterRounds lines else lines

/-! ## What is saved -/

/-- The entry for an expression, if it has a value. -/
def entryOf? (expression : String) : Option Entry :=
  match evaluate expression with
  | .error _ => none
  | .ok value => some ⟨expression, Number.resultText value⟩

/-- The entries for the expressions among the lines, in order. -/
def saved (lines : List String) : List Entry := (expressions lines).filterMap entryOf?

/-! ## What is seen -/

/-- What follows an expression. -/
def reply (expression : String) : String :=
  match evaluate expression with
  | .error error => "Error: " ++ error.message ++ "\n"
  | .ok value => "Result: " ++ Number.resultText value ++ "\nResult saved to history.\n"

/-- The prompts and replies of the rounds. -/
def roundsTranscript : List String → String
  | [] => expressionPrompt ++ "\n"
  | [expression] =>
    expressionPrompt ++ reply (withoutLineEnd expression) ++ againQuestion ++ "\n"
  | expression :: answer :: lines =>
    expressionPrompt ++ reply (withoutLineEnd expression) ++ againQuestion ++
      if saysYes answer then roundsTranscript lines else ""

/-- The line of an entry. -/
def entryText (entry : Entry) : String :=
  "Expression: " ++ entry.expression ++ ", Result: " ++ entry.result ++ "\n"

/-- Entries, one a line. -/
def entryLines : List Entry → String
  | [] => ""
  | entry :: entries => entryText entry ++ entryLines entries

/-- A history as it is shown. -/
def listing (entries : List Entry) : String :=
  if entries = [] then "No history found.\n" else "Calculation History:\n" ++ entryLines entries

/-- The offer of a history, and the history if the first line says yes. -/
def offerTranscript (entries : List Entry) : List String → String
  | [] => historyQuestion ++ "\n"
  | answer :: _ =>
    historyQuestion ++ if saysYes answer then listing entries else ""

/-- All that is seen of a dialogue with a history that has some entries at first. -/
def transcript (entries : List Entry) (lines : List String) : String :=
  welcome ++ "\n" ++ roundsTranscript lines ++
    offerTranscript (entries ++ saved lines) (afterRounds lines) ++ farewell ++ "\n"

/-! ## With any store -/

section

variable {σ : Type} [Store σ]

/-- What follows a result, by what came of saving it. -/
def savingReply : Except History.Error Unit → String
  | .error error => "Error: " ++ error.message ++ "\n"
  | .ok () => "Result saved to history.\n"

/-- What follows an expression: its error, or its result and what came of saving it. -/
def replyWith (store : σ) (expression : String) : String :=
  match evaluate expression with
  | .error error => "Error: " ++ error.message ++ "\n"
  | .ok value =>
    "Result: " ++ Number.resultText value ++ "\n" ++
      savingReply (Store.append store ⟨expression, Number.resultText value⟩).result

/-- What an expression leaves of a store: an expression that has a value is saved with it. -/
def storeAfter (store : σ) (expression : String) : σ :=
  match entryOf? expression with
  | none => store
  | some entry => (Store.append store entry).store

/-- What is shown of a history that may not be readable. -/
def historyReply : Except History.Error (List Entry) → String
  | .error error => "Error: " ++ error.message ++ "\n"
  | .ok entries => listing entries

/-- What follows the offer of the history, by the line that answers it. -/
def offerReply (store : σ) (answer : Option String) : String :=
  (match answer with
    | none => "\n"
    | some line => if saysYes line then historyReply (Store.readAll store).result else "") ++
    farewell ++ "\n"

end

end Dialogue

/-- The dialogues on several terminals, one after another, with one store. -/
def Session.runAll {σ : Type} [Store σ] (store : σ) : List Terminal → List (Ending σ Unit)
  | [] => []
  | terminal :: terminals =>
    let ending := (start terminal store).run
    ending :: runAll ending.2.store terminals

end Calculator
