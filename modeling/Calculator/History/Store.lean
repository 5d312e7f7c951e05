import Calculator.History.Content

/-!
# Stores of entries

A store takes entries one by one and gives all of them back in the order in which they were
added. Two stores keep this contract: one holds its entries in memory, the other holds them
in a file that is read before it is written, and written in full, each time. An entry is thus
never added to a file that cannot be read, and a file that is no history is left as it is.
-/

namespace Calculator.History

/-- What an operation on a store gives, leaves and reports. -/
structure Outcome (σ α : Type) where
  /-- The value, or why there is none. -/
  result : Except Error α
  /-- The store afterwards. -/
  store : σ
  /-- The notices, in order. -/
  notices : List Notice

/-- Stores of entries. -/
class Store (σ : Type) where
  /-- Adds an entry after all others. -/
  append : σ → Entry → Outcome σ Unit
  /-- All entries in the order in which they were added. -/
  readAll : σ → Outcome σ (List Entry)

/-! ## In memory -/

/-- Entries in memory. Either operation may be out of order, for a cause given in advance. -/
structure MemoryStore where
  /-- The entries. -/
  entries : List Entry
  /-- Why nothing can be added, if so. -/
  appendFault : Option String
  /-- Why nothing can be read, if so. -/
  readFault : Option String

namespace MemoryStore

/-- A store in order that holds some entries. -/
def ofEntries (entries : List Entry) : MemoryStore := ⟨entries, none, none⟩

instance : Store MemoryStore where
  append store entry :=
    match store.appendFault with
    | some message => ⟨.error (.file (.other message)), store, []⟩
    | none => ⟨.ok (), { store with entries := store.entries ++ [entry] }, []⟩
  readAll store :=
    match store.readFault with
    | some message => ⟨.error (.file (.other message)), store, []⟩
    | none => ⟨.ok store.entries, store, []⟩

end MemoryStore

/-! ## In a file -/

/-- Entries in the file at a path. -/
structure FileStore where
  /-- The path of the file. -/
  path : Files.Path
  /-- The file system that it is in. -/
  files : Files.FileSystem

namespace FileStore

/-- What reading the file gives. -/
def content (store : FileStore) : Except Files.FileError (List UInt8) :=
  store.files.read store.path

/-- What there is to report about reading the file. -/
def readNotices (store : FileStore) : List Notice := noticesFound store.path store.content

/-- Writes the file with all the given entries. -/
def writeAll (store : FileStore) (entries : List Entry) : Outcome FileStore Unit :=
  match store.files.write store.path (contentOf entries) with
  | .error cause => ⟨.error (.file cause), store, []⟩
  | .ok files =>
    ⟨.ok (), { store with files }, [.historyWritten entries.length store.path]⟩

/-- Reads the file, and writes it with one entry more. -/
def append (store : FileStore) (entry : Entry) : Outcome FileStore Unit :=
  match entriesWith entry store.content with
  | .error error => ⟨.error error, store, store.readNotices⟩
  | .ok entries =>
    let written := store.writeAll entries
    { written with notices := store.readNotices ++ written.notices }

variable {store : FileStore}

/-- A file that cannot be read is not written. -/
theorem append_of_unreadable {error : Error} (h : entriesFound store.content = .error error)
    (entry : Entry) : store.append entry = ⟨.error error, store, store.readNotices⟩ := by
  rw [append, entriesWith, h]

/-- A file that can be read is written with all its entries and one more. -/
theorem append_of_readable {entries : List Entry} (h : entriesFound store.content = .ok entries)
    (entry : Entry) :
    store.append entry =
      { store.writeAll (entries ++ [entry]) with
        notices := store.readNotices ++ (store.writeAll (entries ++ [entry])).notices } := by
  rw [append, entriesWith, h]

instance : Store FileStore where
  append := append
  readAll store := ⟨entriesFound store.content, store, store.readNotices⟩

end FileStore

end Calculator.History
