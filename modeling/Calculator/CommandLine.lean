import Calculator.Configuration
import Calculator.Session.Run

/-!
# The program as a whole

The program takes its configuration from the environment, holds one dialogue on its standard
input and output with the history in a file, and fails only if the terminal does. It then
says why on its error output.
-/

namespace Calculator.CommandLine

/-- What the program leaves behind. -/
structure Conclusion where
  /-- Zero, or one after a failure. -/
  exitCode : UInt32
  /-- What was written to the standard output. -/
  output : List UInt8
  /-- What was written to the error output. -/
  complaint : String
  /-- The file system afterwards. -/
  files : Files.FileSystem

/-- The exit code after a dialogue. -/
def exitCode : Except TerminalFault Unit → UInt32
  | .ok () => 0
  | .error _ => 1

/-- What the error output gets after a dialogue. -/
def complaint : Except TerminalFault Unit → String
  | .ok () => ""
  | .error fault => "Error: " ++ fault.message ++ "\n"

/-- Runs the program with a value of its environment variable, an input and a file system. -/
def run (value : Option (List UInt8)) (input : List UInt8) (files : Files.FileSystem) :
    Conclusion :=
  let store : History.FileStore := ⟨(Configuration.ofValue value).historyPath, files⟩
  let (outcome, session) := (Session.start (Terminal.ofInput input) store).run
  ⟨exitCode outcome, session.terminal.written, complaint outcome, session.store.files⟩

end Calculator.CommandLine
