import Calculator.Files.Path

/-!
# A file system

A file system holds files and directories by their location, the names on the way from the
root. A path is followed name by name, and every name on the way but the last has to be that
of a directory. Writing replaces the whole content of one file, which is made if its
directory exists; a write that fails changes nothing.
-/

namespace Calculator.Files

/-- Why a file cannot be read or written. -/
inductive FileError where
  /-- Nothing is at the path, or at a directory on the way. -/
  | notFound
  /-- Something on the way is a file. -/
  | notADirectory
  /-- A directory is at the path. -/
  | isDirectory
  /-- A name or the whole path is too long. -/
  | nameTooLong
  /-- The path contains a zero byte. -/
  | zeroByte
  /-- The content is not valid UTF-8. -/
  | notText
  /-- Any other cause, in its own words. -/
  | other (message : String)
  deriving DecidableEq, Repr

/-- The wording of each cause. -/
def FileError.message : FileError → String
  | .notFound => "No such file or directory (os error 2)"
  | .notADirectory => "Not a directory (os error 20)"
  | .isDirectory => "Is a directory (os error 21)"
  | .nameTooLong => "File name too long (os error 36)"
  | .zeroByte => "file name contained an unexpected NUL byte"
  | .notText => "stream did not contain valid UTF-8"
  | .other message => message

/-- The names on the way from the root. -/
abbrev Location := List Name

/-- What is at a location. -/
inductive Node where
  /-- A file and its bytes. -/
  | file (content : List UInt8)
  /-- A directory. -/
  | directory
  deriving DecidableEq, Repr

/-- Files and directories, and where relative paths start. -/
structure FileSystem where
  /-- What is at each location apart from the root, which is always a directory. -/
  nodes : List (Location × Node)
  /-- The directory that relative paths start from. -/
  working : Location
  deriving DecidableEq, Repr

namespace FileSystem

/-- The longest name, in bytes. -/
def longestName : Nat := 255

/-- The longest path, in bytes. -/
def longestPath : Nat := 4095

/-- What is at a location, if anything. -/
def node? (files : FileSystem) (location : Location) : Option Node :=
  if location = [] then some .directory else files.nodes.lookup location

/-- Puts a node at a location in place of what was there. -/
def put (files : FileSystem) (location : Location) (node : Node) : FileSystem :=
  { files with nodes := (location, node) :: files.nodes.filter (·.1 != location) }

/-- Takes away what is at a location. -/
def erase (files : FileSystem) (location : Location) : FileSystem :=
  { files with nodes := files.nodes.filter (·.1 != location) }

/-- Where a name leads from a directory. What it leads to need not exist. -/
def enter (files : FileSystem) (location : Location) (name : Name) : Except FileError Location :=
  match files.node? location with
  | none => .error .notFound
  | some (.file _) => .error .notADirectory
  | some .directory =>
    if name = Path.here then .ok location
    else if name = Path.parent then .ok location.dropLast
    else if longestName < name.length then .error .nameTooLong
    else .ok (location ++ [name])

/-- Follows names from a location. -/
def follow (files : FileSystem) (location : Location) (names : List Name) :
    Except FileError Location :=
  names.foldlM files.enter location

/-- The names of a path that can be followed at all. -/
def usableComponents (path : Path) : Except FileError (List Name) :=
  if path.bytes.contains 0 then .error .zeroByte
  else if path.bytes = [] then .error .notFound
  else if longestPath < path.bytes.length then .error .nameTooLong
  else .ok path.components

/-- Where a path starts. -/
def origin (files : FileSystem) (path : Path) : Location :=
  if path.isAbsolute then [] else files.working

/-- Where a path leads to. A slash at its end asks for a directory. -/
def locate (files : FileSystem) (path : Path) : Except FileError Location := do
  let names ← usableComponents path
  files.follow (files.origin path) (if path.endsInSlash then names ++ [Path.here] else names)

/-- The content of the file at a path. -/
def read (files : FileSystem) (path : Path) : Except FileError (List UInt8) := do
  let location ← files.locate path
  match files.node? location with
  | none => .error .notFound
  | some .directory => .error .isDirectory
  | some (.file content) => .ok content

/-- Where the file that is written by way of a path lies. Its directory has to exist, and it
may exist or not; nothing can be written by way of a path that asks for a directory. -/
def locateForWriting (files : FileSystem) (path : Path) : Except FileError Location := do
  let names ← usableComponents path
  let directory ← files.follow (files.origin path) names.dropLast
  let location ← files.enter directory
    (if path.endsInSlash then Path.here else names.getLast?.getD Path.here)
  if files.node? location = some .directory then .error .isDirectory else .ok location

/-- The file system after a file was written. -/
def write (files : FileSystem) (path : Path) (content : List UInt8) :
    Except FileError FileSystem := do
  let location ← files.locateForWriting path
  .ok (files.put location (.file content))

/-- The file system after the file at a path was taken away. -/
def remove (files : FileSystem) (path : Path) : Except FileError FileSystem := do
  let location ← files.locate path
  match files.node? location with
  | none => .error .notFound
  | some .directory => .error .isDirectory
  | some (.file _) => .ok (files.erase location)

/-- The nodes below the working directory, by the names on the way from there. -/
def belowWorking (files : FileSystem) : List (Location × Node) :=
  files.nodes.filterMap fun (location, node) =>
    if files.working.isPrefixOf location ∧ location ≠ files.working then
      some (location.drop files.working.length, node)
    else none

end FileSystem

end Calculator.Files
