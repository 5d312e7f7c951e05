import Calculator.CommandLine

/-!
# The executable

Carries out the dialogue on the standard input and output and on real files. Each step of a
script becomes one action; all decisions are made by the scripts.
-/

namespace Calculator

open History (Entry)

/-- The number of a system error, which some operations give with its sign changed. -/
def systemCode (code : UInt32) : UInt32 := if code < 0x80000000 then code else 0 - code

/-- The wording of an error of the system: its description and its number. -/
def systemMessage (error : IO.Error) : String :=
  match error with
  | .alreadyExists _ code details | .invalidArgument _ code details
  | .permissionDenied _ code details | .resourceExhausted _ code details
  | .inappropriateType _ code details | .noSuchThing _ code details
  | .interrupted _ code details | .noFileOrDirectory _ code details
  | .otherError code details | .resourceBusy code details | .resourceVanished code details
  | .unsupportedOperation code details | .hardwareFault code details
  | .unsatisfiedConstraints code details | .illegalOperation code details
  | .protocolError code details | .timeExpired code details =>
    details.capitalize ++ " (os error " ++ toString (systemCode code) ++ ")"
  | .unexpectedEof | .userError _ => toString error

/-- The cause of a failed file operation. -/
def fileError (error : IO.Error) : Files.FileError :=
  match error with
  | .noFileOrDirectory .. => .notFound
  | .inappropriateType _ code _ =>
    if systemCode code = 20 then .notADirectory else .isDirectory
  | .invalidArgument _ code _ => if systemCode code = 36 then .nameTooLong else .zeroByte
  | _ => .other (systemMessage error)

/-- What reading the file at a path gives. -/
def readContent (path : Files.Path) : IO (Except Files.FileError (List UInt8)) := do
  try
    let content ← IO.FS.readBinFile path.shown
    return .ok content.data.toList
  catch error => return .error (fileError error)

/-- Writes the file at a path with the given entries. -/
def writeEntries (path : Files.Path) (entries : List Entry) : IO (Except History.Error Unit) := do
  try
    IO.FS.writeBinFile path.shown (History.contentOf entries).toByteArray
    return .ok ()
  catch error => return .error (.file (fileError error))

/-- Reads bytes up to a line feed or the end of the input, after those already read. -/
partial def readBytes (input : IO.FS.Stream) (line : ByteArray) : IO ByteArray := do
  let byte ← input.read 1
  let line := line ++ byte
  if byte.isEmpty || byte.data.contains Terminal.lineFeed then return line
  else readBytes input line

/-- Reads a line; there is none at the end of the input. -/
def nextLine : IO (Option String) := do
  let bytes ← readBytes (← IO.getStdin) ByteArray.empty
  if bytes.isEmpty then return none
  match Text.decode? bytes.data.toList with
  | some line => return some line
  | none => throw (IO.userError Files.FileError.notText.message)

/-- Carries out a script on the standard input and output, with the history in a file. -/
def Script.perform {α : Type} (path : Files.Path) : Script α → IO α
  | .done value => return value
  | .write text next => do
    (← IO.getStdout).putStr text
    next.perform path
  | .flush next => do
    (← IO.getStdout).flush
    next.perform path
  | .readLine next => do
    (next (← nextLine)).perform path
  | .append entry next => do
    match History.entriesWith entry (← readContent path) with
    | .error error => (next (.error error)).perform path
    | .ok entries => do
      let result ← writeEntries path entries
      (next result).perform path
  | .readAll next => do
    let found ← readContent path
    (next (History.entriesFound found)).perform path
  | .note _ next => next.perform path

/-- Carries out rounds until one does not end in agreement. -/
partial def performRounds (path : Files.Path) : IO Unit := do
  if ← Dialogue.round.perform path then performRounds path

/-- Carries out a whole dialogue. -/
def performDialogue (path : Files.Path) : IO Unit := do
  Dialogue.opening.perform path
  performRounds path
  Dialogue.ending.perform path
  (← IO.getStdout).flush

/-- Runs the program, and gives its exit code. -/
def runProgram : IO UInt32 := do
  let value ← IO.getEnv Configuration.variableName
  let configuration := Configuration.ofValue (value.map Text.encode)
  let outcome : Except TerminalFault Unit ←
    try
      performDialogue configuration.historyPath
      pure (.ok ())
    catch error => pure (.error (.other (systemMessage error)))
  IO.eprint (CommandLine.complaint outcome)
  return CommandLine.exitCode outcome

end Calculator

/-- Runs the program; its arguments do not matter. -/
def main (_ : List String) : IO UInt32 := Calculator.runProgram
