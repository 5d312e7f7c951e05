import Calculator.Files.FileSystem
import Calculator.Json.Failure

/-!
# Entries of the history

An entry is an expression as typed and its result as printed. Entries are kept in the order
in which they were added. A history can fail in two ways: its file cannot be reached or is
not text, or the text in it is not a history.
-/

namespace Calculator.History

/-- A calculation that was saved. -/
structure Entry where
  /-- The expression as typed. -/
  expression : String
  /-- The result as printed. -/
  result : String
  deriving DecidableEq, Repr

/-- Why a history cannot be read or extended. -/
inductive Error where
  /-- The file cannot be read or written. -/
  | file (cause : Files.FileError)
  /-- The file holds something else than a history. -/
  | document (failure : Json.LocatedFailure)

/-- The wording of each cause. -/
def Error.message : Error → String
  | .file cause => "history I/O failure: " ++ cause.message
  | .document failure => "history file is not valid JSON: " ++ failure.message

end Calculator.History
