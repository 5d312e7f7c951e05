import Calculator.Files.Path
import Calculator.Number.Layout
import Calculator.Text.Shown

/-!
# What the program reports about its work

Notices go to a log beside the dialogue. Each is recorded as what happened; its wording and
its level follow from that.
-/

namespace Calculator

/-- How important a notice is. -/
inductive Level where
  | debug
  | info
  | warning
  deriving DecidableEq, Repr

/-- The name of a level in the log. -/
def Level.label : Level → String
  | .debug => "DEBUG"
  | .info => "INFO"
  | .warning => "WARN"

/-- Something that happened. -/
inductive Notice where
  /-- An expression was brought into postorder; both orders are given as text. -/
  | arranged (tokens postorder : String)
  /-- An expression has a finite value. -/
  | calculated (value : Float)
  /-- There is no history file at the path. -/
  | historyAbsent (path : Files.Path)
  /-- The history file at the path was written with a number of entries. -/
  | historyWritten (count : Nat) (path : Files.Path)
  /-- A calculation was shown and saved. -/
  | saved (expression : String)
  /-- An error was shown and the dialogue goes on. -/
  | refused (message : String)

namespace Notice

/-- The level of a notice. -/
def level : Notice → Level
  | .arranged .. | .calculated _ | .historyAbsent _ => .debug
  | .historyWritten .. | .saved _ => .info
  | .refused _ => .warning

/-- The wording of a notice. -/
def message : Notice → String
  | .arranged tokens postorder => "jetons: [" ++ tokens ++ "] rpn: [" ++ postorder ++ "]"
  | .calculated value => "résultat: " ++ Number.Layout.plain.write value
  | .historyAbsent path => "historique absent: " ++ path.shown
  | .historyWritten count path =>
    "historique: " ++ String.ofList (Nat.toDigits 10 count) ++ " entrée(s) dans " ++ path.shown
  | .saved expression =>
    "calcul enregistré: " ++ String.ofList (Text.quoted expression.toList)
  | .refused message => message

end Notice

end Calculator
