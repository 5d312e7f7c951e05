import Calculator.History.Store
import Calculator.Proofs.Files.Writing
import Calculator.Proofs.History.Document

/-!
# Stores keep a list

A store keeps a list of entries if an entry can always be added to it, comes after all others,
and reading gives the whole list. Then it answers any requests as the list does
(`Keeps.serveAll_holds`). A store in memory keeps its entries. A file keeps the entries that are
read from it as long as it can be written, for what is written reads back; and since a handle on a
file holds nothing but the path, it makes no difference which handle a request goes through, nor
when it was made.
-/

namespace Calculator.History

variable {σ : Type}

/-! ## Requests -/

/-- What is asked of a store. -/
inductive Request where
  /-- That an entry be added. -/
  | append (entry : Entry)
  /-- That all entries be given. -/
  | readAll
  deriving DecidableEq, Repr

/-- What a store answers. -/
inductive Answer where
  /-- To a request to add an entry. -/
  | appended (result : Except Error Unit)
  /-- To a request for all entries. -/
  | entries (result : Except Error (List Entry))

namespace Request

/-- The answer of a store, and the store afterwards. -/
def serve [Store σ] (store : σ) : Request → Answer × σ
  | .append entry => (.appended (Store.append store entry).result, (Store.append store entry).store)
  | .readAll => (.entries (Store.readAll store).result, (Store.readAll store).store)

/-- The entries that a request adds. -/
def added : Request → List Entry
  | .append entry => [entry]
  | .readAll => []

/-- The answer that is due when some entries were added so far. -/
def answerOver (entries : List Entry) : Request → Answer
  | .append _ => .appended (.ok ())
  | .readAll => .entries (.ok entries)

end Request

/-- The answers of a store to requests in order, and the store after them. -/
def serveAll [Store σ] (store : σ) : List Request → List Answer × σ
  | [] => ([], store)
  | request :: requests =>
    let (answer, next) := request.serve store
    let (answers, last) := serveAll next requests
    (answer :: answers, last)

/-- The answers to requests that go through handles on files, and the files after them. A handle
has the files as they were when it was made; it finds them as they are when it is used. -/
def serveShared (files : Files.FileSystem) :
    List (FileStore × Request) → List Answer × Files.FileSystem
  | [] => ([], files)
  | (handle, request) :: requests =>
    let (answer, next) := request.serve { handle with files }
    let (answers, last) := serveShared next.files requests
    (answer :: answers, last)

/-- The answers that are due to requests in order. -/
def answersOver (entries : List Entry) : List Request → List Answer
  | [] => []
  | request :: requests =>
    request.answerOver entries :: answersOver (entries ++ request.added) requests

/-- What is due to one request among others depends on what was added before it. -/
theorem getElem?_answersOver (entries : List Entry) (before : List Request) (request : Request)
    (after : List Request) :
    (answersOver entries (before ++ request :: after))[before.length]? =
      some (request.answerOver (entries ++ before.flatMap Request.added)) := by
  induction before generalizing entries with
  | nil => simp [answersOver]
  | cons first before ih =>
    rw [List.cons_append, answersOver, List.length_cons, List.getElem?_cons_succ, ih,
      List.flatMap_cons, List.append_assoc]

/-! ## Stores -/

/-- A relation of stores to lists that both operations keep, with the results that are due. -/
structure Keeps [Store σ] (Holds : σ → List Entry → Prop) : Prop where
  /-- An entry is added after all others. -/
  append : ∀ {store entries}, Holds store entries → ∀ entry,
    (Store.append store entry).result = .ok () ∧
      Holds (Store.append store entry).store (entries ++ [entry])
  /-- All entries are given, and kept. -/
  readAll : ∀ {store entries}, Holds store entries →
    (Store.readAll store).result = .ok entries ∧ Holds (Store.readAll store).store entries

namespace Keeps

variable [Store σ] {Holds : σ → List Entry → Prop} {store : σ} {entries : List Entry}

/-- One request has the answer that is due, and what it adds is kept. -/
theorem serve_holds (keeps : Keeps Holds) (h : Holds store entries) (request : Request) :
    (request.serve store).1 = request.answerOver entries ∧
      Holds (request.serve store).2 (entries ++ request.added) := by
  cases request with
  | append entry =>
    obtain ⟨result, held⟩ := keeps.append h entry
    exact ⟨congrArg Answer.appended result, held⟩
  | readAll =>
    obtain ⟨result, held⟩ := keeps.readAll h
    refine ⟨congrArg Answer.entries result, ?_⟩
    rw [Request.added, List.append_nil]
    exact held

/-- All requests have the answers that are due, and what they add is kept. -/
theorem serveAll_holds (keeps : Keeps Holds) (h : Holds store entries) (requests : List Request) :
    (serveAll store requests).1 = answersOver entries requests ∧
      Holds (serveAll store requests).2 (entries ++ requests.flatMap Request.added) := by
  induction requests generalizing store entries with
  | nil =>
    refine ⟨rfl, ?_⟩
    rw [List.flatMap_nil, List.append_nil]
    exact h
  | cons request requests ih =>
    obtain ⟨answer, next⟩ := keeps.serve_holds h request
    obtain ⟨answers, last⟩ := ih next
    constructor
    · rw [serveAll, answersOver]
      simp only [answer, answers]
    · rw [List.flatMap_cons, ← List.append_assoc]
      exact last

end Keeps

/-- A store in memory keeps its entries. -/
theorem memory_keeps : Keeps fun store entries => store = MemoryStore.ofEntries entries where
  append := by
    rintro store entries rfl entry
    exact ⟨rfl, rfl⟩
  readAll := by
    rintro store entries rfl
    exact ⟨rfl, rfl⟩

namespace FileStore

/-- The file at a path is read as some entries and can be written. -/
structure Holds (path : Files.Path) (store : FileStore) (entries : List Entry) : Prop where
  /-- The store is that of the path. -/
  here : store.path = path
  /-- The entries are read from the file. -/
  found : entriesFound store.content = .ok entries
  /-- The file can be written. -/
  writable : ∃ content written, store.files.write store.path content = .ok written

/-- Writing entries makes the file hold them. -/
theorem Holds.writeAll {path : Files.Path} {store : FileStore} {entries : List Entry}
    (h : store.Holds path entries) (others : List Entry) :
    (store.writeAll others).result = .ok () ∧ (store.writeAll others).store.Holds path others := by
  obtain ⟨content, written, writable⟩ := h.writable
  obtain ⟨after, success⟩ := Files.FileSystem.write_isOk writable (contentOf others)
  have reads := Files.FileSystem.read_of_write success
  have again := Files.FileSystem.write_of_write success (contentOf others)
  rw [FileStore.writeAll, success]
  refine ⟨rfl, h.here, ?_, contentOf others, after, again.trans success⟩
  change entriesFound (after.read store.path) = _
  rw [reads]
  exact entriesOf_contentOf others

/-- A file that can be written keeps the entries that are read from it. -/
theorem keeps (path : Files.Path) : Keeps (Holds path) where
  append := by
    intro store entries h entry
    have written := h.writeAll (entries ++ [entry])
    change (append store entry).result = _ ∧ Holds path (append store entry).store _
    rw [append_of_readable h.found]
    exact written
  readAll := fun h => ⟨h.found, h⟩

/-- A request leaves a handle on its path. -/
theorem path_of_serve (store : FileStore) (request : Request) :
    (request.serve store).2.path = store.path := by
  cases request with
  | readAll => rfl
  | append entry =>
    change (append store entry).store.path = store.path
    cases found : entriesFound store.content with
    | error error => rw [append_of_unreadable found]
    | ok entries =>
      rw [append_of_readable found, writeAll]
      split <;> rfl

end FileStore

/-- Requests through handles on one path are requests to one store of this path. -/
theorem serveShared_eq_serveAll {path : Files.Path} (files : Files.FileSystem)
    {requests : List (FileStore × Request)}
    (same : ∀ handle request, (handle, request) ∈ requests → handle.path = path) :
    serveShared files requests =
      ((serveAll (⟨path, files⟩ : FileStore) (requests.map Prod.snd)).1,
        (serveAll (⟨path, files⟩ : FileStore) (requests.map Prod.snd)).2.files) := by
  induction requests generalizing files with
  | nil => rfl
  | cons first requests ih =>
    obtain ⟨handle, request⟩ := first
    obtain rfl := same handle request List.mem_cons_self
    have others : ∀ other request, (other, request) ∈ requests → other.path = handle.path :=
      fun other request member => same other request (List.mem_cons_of_mem _ member)
    have next : (⟨handle.path, (request.serve (⟨handle.path, files⟩ : FileStore)).2.files⟩ :
        FileStore) = (request.serve (⟨handle.path, files⟩ : FileStore)).2 :=
      congrArg (FileStore.mk · _) (FileStore.path_of_serve ⟨handle.path, files⟩ request).symm
    rw [serveShared, List.map_cons, serveAll]
    simp only [ih _ others, next]

/-- A file that is read as some entries and can be written is a list of entries for all who use it
by its path: whatever requests go through whatever handles on the path, every answer is that of a
store in memory with these entries at first. Every entry can be added, and reading gives the
entries there were at first and, unchanged and in order, all that were added since. -/
theorem serveShared_answers {path : Files.Path} {files written : Files.FileSystem}
    {entries : List Entry} {content : List UInt8}
    (found : (Store.readAll (⟨path, files⟩ : FileStore)).result = .ok entries)
    (writable : files.write path content = .ok written) {requests : List (FileStore × Request)}
    (same : ∀ handle request, (handle, request) ∈ requests → handle.path = path) :
    (serveShared files requests).1 =
        (serveAll (MemoryStore.ofEntries entries) (requests.map Prod.snd)).1 ∧
      ∀ before handle request after, requests = before ++ (handle, request) :: after →
        (serveShared files requests).1[before.length]? =
          some (request.answerOver
            (entries ++ before.flatMap fun earlier => earlier.2.added)) := by
  have held : FileStore.Holds path ⟨path, files⟩ entries := ⟨rfl, found, content, written, writable⟩
  have due : (serveShared files requests).1 = answersOver entries (requests.map Prod.snd) := by
    rw [serveShared_eq_serveAll files same]
    exact ((FileStore.keeps path).serveAll_holds held _).1
  refine ⟨due.trans (memory_keeps.serveAll_holds rfl _).1.symm, ?_⟩
  rintro before handle request after rfl
  have place := getElem?_answersOver entries (before.map Prod.snd) request (after.map Prod.snd)
  rw [List.length_map, List.flatMap_map] at place
  rw [due, List.map_append, List.map_cons]
  exact place

/-- An entry with a quote, a backslash, control characters and a character above U+FFFF comes after
the one that the file has, also for a handle that was made before there was a file. -/
theorem serveShared_two_handles :
    (serveShared ⟨[([[0x68]], .file (contentOf [⟨"1 + 1", "2.0"⟩]))], []⟩
        [(⟨⟨[0x68]⟩, ⟨[], []⟩⟩, .append ⟨"\"\\\x00\n", "😀"⟩),
          (⟨⟨[0x68]⟩, ⟨[], [[0x68]]⟩⟩, .readAll)]).1 =
      [.appended (.ok ()),
        .entries (.ok [⟨"1 + 1", "2.0"⟩, ⟨"\"\\\x00\n", "😀"⟩])] := by
  have found : ∀ content entries, entriesOf content = .ok entries →
      (Store.readAll (⟨⟨[0x68]⟩, ⟨[([[0x68]], .file content)], []⟩⟩ : FileStore)).result =
        .ok entries := fun _ _ h => h
  have writable : ∀ content,
      (⟨[([[0x68]], .file content)], []⟩ : Files.FileSystem).write ⟨[0x68]⟩ [] =
        .ok ⟨[([[0x68]], .file [])], []⟩ := fun _ => rfl
  have same : ∀ handle request, (handle, request) ∈
      [((⟨⟨[0x68]⟩, ⟨[], []⟩⟩ : FileStore), Request.append ⟨"\"\\\x00\n", "😀"⟩),
        (⟨⟨[0x68]⟩, ⟨[], [[0x68]]⟩⟩, .readAll)] → handle.path = ⟨[0x68]⟩ := by
    intro handle request member
    simp only [List.mem_cons, Prod.mk.injEq, List.not_mem_nil, or_false] at member
    obtain ⟨rfl, -⟩ | ⟨rfl, -⟩ := member <;> rfl
  rw [(serveShared_answers (found _ _ (entriesOf_contentOf _)) (writable _) same).1]
  rfl

end Calculator.History
