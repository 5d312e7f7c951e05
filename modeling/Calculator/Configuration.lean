import Calculator.Files.Path

/-!
# Configuration

The program is configured by its environment alone, read once at its start. One variable
gives the path of the history file; without it, or when it is empty, the history is kept in a
file of the working directory.
-/

namespace Calculator

/-- What the program is run with. -/
structure Configuration where
  /-- The path of the history file. -/
  historyPath : Files.Path
  deriving DecidableEq, Repr

namespace Configuration

/-- The environment variable of the path. -/
def variableName : String := "CALC_HISTORIQUE"

/-- The configuration without the variable. -/
def default : Configuration := ⟨Files.Path.ofString "history.json"⟩

/-- The configuration for a value of the variable. The path is kept as given. -/
def ofValue : Option (List UInt8) → Configuration
  | none => default
  | some value => if value = [] then default else ⟨⟨value⟩⟩

/-- Whether a configuration names the same file as the default one. -/
def isDefault (configuration : Configuration) : Bool :=
  configuration.historyPath.alike default.historyPath

end Configuration

end Calculator
