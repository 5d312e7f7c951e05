import Calculator.History.Reader
import Calculator.Notice
import Calculator.Text.Blank

/-!
# The content of a history file

A history file holds UTF-8 text. A file that is absent, or blank in the sense of Unicode, is an
empty history; any other text has to be a history in full.
-/

namespace Calculator.History

/-- The entries in a text. -/
def entriesOfText (text : List Char) : Except Error (List Entry) :=
  if text.all Text.isBlank then .ok []
  else
    match read text with
    | .ok entries => .ok entries
    | .error failure => .error (.document (Json.LocatedFailure.ofFailure text failure))

/-- The entries in the bytes of a file. -/
def entriesOf (content : List UInt8) : Except Error (List Entry) :=
  match Text.decode? content with
  | none => .error (.file .notText)
  | some text => entriesOfText text.toList

/-- The bytes of a file with given entries. -/
def contentOf (entries : List Entry) : List UInt8 := Text.encode (String.ofList (write entries))

/-- The entries of what reading a file gave. -/
def entriesFound : Except Files.FileError (List UInt8) → Except Error (List Entry)
  | .ok content => entriesOf content
  | .error .notFound => .ok []
  | .error cause => .error (.file cause)

/-- The entries to write a file with for it to have one more, by what reading it gave. A file that
cannot be read must not be written. -/
def entriesWith (entry : Entry) (found : Except Files.FileError (List UInt8)) :
    Except Error (List Entry) :=
  match entriesFound found with
  | .error error => .error error
  | .ok entries => .ok (entries ++ [entry])

/-- What there is to report about reading the file at a path. -/
def noticesFound (path : Files.Path) : Except Files.FileError (List UInt8) → List Notice
  | .error .notFound => [.historyAbsent path]
  | _ => []

end Calculator.History
