import Calculator.Text.Bytes

/-!
# Paths

A path is any sequence of bytes. Its components are what stands between the slashes; runs of
slashes count as one. Two paths are alike when they have the same components apart from `.`,
which counts only at the start of a relative path, so a slash at the end makes no difference.
-/

namespace Calculator.Files

/-- The name of a file or directory. -/
abbrev Name := List UInt8

/-- A path as given, never normalised. -/
structure Path where
  /-- Its bytes. -/
  bytes : List UInt8
  deriving DecidableEq, Repr

namespace Path

/-- The byte between components. -/
def slash : UInt8 := 0x2F

/-- The name of a directory inside itself. -/
def here : Name := [0x2E]

/-- The name of the enclosing directory inside a directory. -/
def parent : Name := [0x2E, 0x2E]

/-- The path with a text as its bytes. -/
def ofString (text : String) : Path := ⟨Text.encode text⟩

/-- Whether a path starts at the root. -/
def isAbsolute (path : Path) : Bool := path.bytes.head? == some slash

/-- Whether a path ends in a slash. -/
def endsInSlash (path : Path) : Bool := path.bytes.getLast? == some slash

/-- The names between the slashes. -/
def components (path : Path) : List Name :=
  (path.bytes.splitOnP (· == slash)).filter (· ≠ [])

/-- The components that tell paths apart. -/
def significantComponents (path : Path) : List Name :=
  match path.components with
  | [] => []
  | first :: rest =>
    let rest := rest.filter (· ≠ here)
    if first = here ∧ path.isAbsolute then rest else first :: rest

/-- Whether two paths have the same components and start at the same place. -/
def alike (first second : Path) : Bool :=
  first.isAbsolute == second.isAbsolute &&
    first.significantComponents == second.significantComponents

/-- A path as shown to a reader. -/
def shown (path : Path) : String := String.ofList (Text.decodeLossy path.bytes)

end Path

end Calculator.Files
