import Calculator.History.Entry
import Calculator.Json.Text

/-!
# The text of a history

A history is written as a list of objects, each with the members `Expression` and `Result` in
this order on lines of their own, four spaces deeper for every level, and nothing after the
closing bracket. An empty history is an empty list on one line.
-/

namespace Calculator.History

/-- The name of the member that holds the expression. -/
def expressionKey : String := "Expression"

/-- The name of the member that holds the result. -/
def resultKey : String := "Result"

/-- The blanks before a line at a level of nesting. -/
def indent (level : Nat) : List Char := List.replicate (4 * level) ' '

/-- A member on its line. -/
def writeMember (key value : String) : List Char :=
  indent 2 ++ Json.writeText key.toList ++ [':', ' '] ++ Json.writeText value.toList

/-- An entry on its lines. -/
def writeEntry (entry : Entry) : List Char :=
  indent 1 ++ ['\x7b', '\n'] ++ writeMember expressionKey entry.expression ++ [',', '\n'] ++
    writeMember resultKey entry.result ++ ['\n'] ++ indent 1 ++ ['\x7d']

/-- A whole history. -/
def write (entries : List Entry) : List Char :=
  if entries = [] then ['[', ']']
  else ['[', '\n'] ++ [',', '\n'].intercalate (entries.map writeEntry) ++ ['\n', ']']

end Calculator.History
