import Calculator.Session.Transcript

/-!
# Typing a history again

A calculation leaves an entry that can be checked by itself: its expression is a line that can be
typed, and its result is the text of the finite value that this expression has. So the expressions
of a history can be typed one after another, with a yes between any two of them.
-/

namespace Calculator.Dialogue

open History (Entry)

/-- An expression that can be typed on a line and is taken as it stands: it has no line feed in it
and no carriage return at its end. -/
structure Typable (expression : String) : Prop where
  /-- It is part of a single line. -/
  single : '\n' ∉ expression.toList
  /-- Its end is not taken for that of the line. -/
  unended : expression.toList.getLast? ≠ some '\r'

/-- An entry that a calculation can have saved. -/
structure Calculated (entry : Entry) : Prop where
  /-- The expression can be typed. -/
  typable : Typable entry.expression
  /-- The result is that of the expression. -/
  valued : ∃ value, evaluate entry.expression = .ok value ∧ value.isFinite = true ∧
    Number.resultText value = entry.result

/-- What is typed to calculate the expressions of entries one after another, and to leave then. -/
def retyped (entries : List Entry) : String :=
  "yes\n".intercalate (entries.map (·.expression ++ "\n")) ++ "no\nno\n"

end Calculator.Dialogue
