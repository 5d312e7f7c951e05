import Calculator.Expression.Evaluation
import Calculator.Session.Script

/-!
# The dialogue

The dialogue greets, then goes through rounds, each of an expression and the question whether
to go on, then offers the history and says goodbye. A round calculates, shows the result,
saves it and says so, in this order; whatever goes wrong with the expression or the history
is shown and the dialogue goes on. Only `yes` in either case of its letters, and with nothing
around it, is agreement. The end of the input ends any prompt as a refusal would.
-/

namespace Calculator.Dialogue

open History (Entry)

/-! ## Lines -/

/-- The first line of every dialogue. -/
def welcome : String := "Welcome to Terminal Calculator with Parser!"

/-- The prompt for an expression. -/
def expressionPrompt : String := "Enter an expression: "

/-- The question that ends a round. -/
def againQuestion : String := "Would you like to perform another calculation? (yes/no): "

/-- The question that follows the rounds. -/
def historyQuestion : String := "Would you like to see the calculation history? (yes/no): "

/-- The last line of every dialogue. -/
def farewell : String := "Thank you for using Terminal Calculator with Parser. Goodbye!"

/-- The line that shows a result. -/
def resultLine (result : String) : String := "Result: " ++ result

/-- The line after a result was saved. -/
def savedLine : String := "Result saved to history."

/-- The line that shows an error. -/
def errorLine (message : String) : String := "Error: " ++ message

/-- The line before the entries of a history. -/
def historyHeader : String := "Calculation History:"

/-- The line for an empty history. -/
def emptyHistoryLine : String := "No history found."

/-- The line of an entry. -/
def entryLine (entry : Entry) : String :=
  "Expression: " ++ entry.expression ++ ", Result: " ++ entry.result

/-! ## Writing and asking -/

/-- An error that does not end the dialogue. -/
inductive Refusal where
  /-- The expression has no value. -/
  | expression (error : EvaluationError)
  /-- The history cannot be read or extended. -/
  | history (error : History.Error)

/-- The wording of an error. -/
def Refusal.message : Refusal → String
  | .expression error => error.message
  | .history error => error.message

/-- Writes a line. -/
def line (text : String) : Script Unit := .write (text ++ "\n") (.done ())

/-- Reports something to the log. -/
def note (notice : Notice) : Script Unit := .note notice (.done ())

/-- Reports several things to the log, in order. -/
def noteAll : List Notice → Script Unit
  | [] => .done ()
  | notice :: notices => .note notice (noteAll notices)

/-- Whether a character belongs to the end of a line. -/
def endsLine (c : Char) : Bool := c == '\n' || c == '\r'

/-- A line without any line feeds and carriage returns at its end. -/
def withoutLineEnd (line : String) : String :=
  String.ofList (line.toList.reverse.dropWhile endsLine).reverse

/-- Writes a prompt and reads the line after it. At the end of the input the prompt's line is
ended instead. -/
def ask (prompt : String) : Script (Option String) :=
  .write prompt (.flush (.readLine fun
    | none => .write "\n" (.done none)
    | some answer => .done (some (withoutLineEnd answer))))

/-- Whether an answer agrees. -/
def agrees (answer : String) : Bool := answer.toList.map Char.toLower == ['y', 'e', 's']

/-- Asks a question and tells whether the answer agrees. -/
def confirm (question : String) : Script Bool := do
  match ← ask question with
  | none => return false
  | some answer => return agrees answer

/-- Shows an error and reports it to the log. -/
def refuse (refusal : Refusal) : Script Unit := do
  note (.refused refusal.message)
  line (errorLine refusal.message)

/-! ## Calculating -/

/-- Shows a result, and saves it once it has been shown. -/
def save (expression result : String) : Script Unit := do
  line (resultLine result)
  match ← Script.append ⟨expression, result⟩ .done with
  | .error error => refuse (.history error)
  | .ok () =>
    line savedLine
    note (.saved expression)

/-- Evaluates an expression; shows and saves its result, or shows why there is none. -/
def calculate (expression : String) : Script Unit := do
  let evaluation := Evaluation.ofText expression
  noteAll evaluation.notices
  match evaluation.outcome with
  | .error error => refuse (.expression error)
  | .ok (value, _) => save expression (Number.resultText value)

/-- One round, and whether another one follows. -/
def round : Script Bool := do
  match ← ask expressionPrompt with
  | none => return false
  | some expression =>
    calculate expression
    confirm againQuestion

/-! ## Showing the history -/

/-- Shows entries, one a line. -/
def listEntries : List Entry → Script Unit
  | [] => .done ()
  | entry :: entries => do
    line (entryLine entry)
    listEntries entries

/-- Shows the history. -/
def showHistory : Script Unit := do
  match ← Script.readAll .done with
  | .error error => refuse (.history error)
  | .ok [] => line emptyHistoryLine
  | .ok (entry :: entries) =>
    line historyHeader
    listEntries (entry :: entries)

/-! ## The parts of a dialogue -/

/-- The start of a dialogue. -/
def opening : Script Unit := line welcome

/-- The end of a dialogue, after its rounds. -/
def ending : Script Unit := do
  if ← confirm historyQuestion then showHistory
  line farewell

end Calculator.Dialogue
