import Calculator.Proofs.Session.Record

/-!
# A refused entry changes nothing

A file is written only after all entries in it have been read, and a write that fails leaves the
files as they were. So an entry that is refused, for whatever cause, has changed nothing
(`FileStore.append_of_error`). A file that cannot be read as a history thus stays as it is, byte
for byte, however often it is used and whatever dialogues are held over it, and whoever asks for
its entries or wants to add one is told the same cause every time.
-/

namespace Calculator.History

/-- The answer that refuses a request for a cause. -/
def Request.refusal (error : Error) : Request → Answer
  | .append _ => .appended (.error error)
  | .readAll => .entries (.error error)

namespace FileStore

variable {store : FileStore} {error : Error}

/-- A write that fails leaves all files as they were. -/
theorem writeAll_of_error {entries : List Entry}
    (h : (store.writeAll entries).result = .error error) :
    (store.writeAll entries).store = store := by
  unfold writeAll at h ⊢
  split at h
  · rfl
  · cases h

/-- An entry that is refused leaves all files as they were. -/
theorem append_of_error {entry : Entry} (h : (store.append entry).result = .error error) :
    (store.append entry).store = store := by
  cases found : entriesFound store.content with
  | error cause => rw [append_of_unreadable found]
  | ok entries =>
    rw [append_of_readable found] at h ⊢
    exact writeAll_of_error h

end FileStore

/-- A file that cannot be read, and a record in which every request was refused for that cause. -/
structure Recorded.Refuses (unreadable : FileStore) (error : Error)
    (recorded : Recorded FileStore) : Prop where
  /-- The files are as they were. -/
  unchanged : recorded.store = unreadable
  /-- Every request was refused. -/
  refused : ∀ request answer, (request, answer) ∈ recorded.exchanges →
    answer = request.refusal error

namespace Recorded.Refuses

variable {unreadable : FileStore} {error : Error} {recorded : Recorded FileStore}

/-- One more refusal is recorded. -/
theorem exchange (h : recorded.Refuses unreadable error) (request : Request) :
    Recorded.Refuses unreadable error
      ⟨recorded.store, recorded.exchanges ++ [(request, request.refusal error)]⟩ := by
  refine ⟨h.unchanged, fun other answer member => ?_⟩
  rcases List.mem_append.mp member with earlier | latest
  · exact h.refused other answer earlier
  · simp only [List.mem_singleton, Prod.mk.injEq] at latest
    obtain ⟨rfl, rfl⟩ := latest
    rfl

/-- An entry is refused like any request before it. -/
theorem append (found : entriesFound unreadable.content = .error error)
    (h : recorded.Refuses unreadable error) (entry : Entry) :
    (Store.append recorded entry).store.Refuses unreadable error := by
  rw [← h.unchanged] at found
  have next : (Store.append recorded entry).store =
      ⟨(recorded.store.append entry).store, recorded.exchanges ++
        [(.append entry, .appended (recorded.store.append entry).result)]⟩ := rfl
  rw [next, FileStore.append_of_unreadable found]
  exact h.exchange (.append entry)

/-- Reading is refused like any request before it. -/
theorem readAll (found : entriesFound unreadable.content = .error error)
    (h : recorded.Refuses unreadable error) :
    (Store.readAll recorded).store.Refuses unreadable error := by
  rw [← h.unchanged] at found
  have next : (Store.readAll recorded).store =
      ⟨recorded.store, recorded.exchanges ++
        [(.readAll, .entries (entriesFound recorded.store.content))]⟩ := rfl
  rw [next, found]
  exact h.exchange .readAll

end Recorded.Refuses

/-- An entry that a file refuses changes nothing at all. If the file cannot be read, it stays as it
is under any requests and dialogues, and each request among them, those inside the dialogues
included, is refused for the one cause that the file cannot be read. -/
theorem refusal_changes_nothing (store : FileStore) :
    (∀ entry error, (Store.append store entry).result = .error error →
      (Store.append store entry).store = store ∧
      (Store.readAll (Store.append store entry).store).result = (Store.readAll store).result) ∧
    ∀ error, (Store.readAll store).result = .error error → ∀ uses : List Use,
      performAll store uses = store ∧
      (performAll (Recorded.ofStore store) uses).store = performAll store uses ∧
      ∀ request answer,
        (request, answer) ∈ (performAll (Recorded.ofStore store) uses).exchanges →
        answer = request.refusal error := by
  constructor
  · intro entry error refused
    have unchanged : (Store.append store entry).store = store := FileStore.append_of_error refused
    exact ⟨unchanged, by rw [unchanged]⟩
  · intro error unreadable uses
    have found : entriesFound store.content = .error error := unreadable
    have start : (Recorded.ofStore store).Refuses store error :=
      ⟨rfl, fun _ _ member => nomatch member⟩
    have refuses := performAll_keeps (Recorded.Refuses.append found)
      (Recorded.Refuses.readAll found) start uses
    have same := performAll_recorded (Recorded.ofStore store) uses
    exact ⟨same.symm.trans refuses.unchanged, same, refuses.refused⟩

/-- Nothing is added to a file whose directory is missing, although it can be read as an empty
history. A file of one byte that is no text stays as it is, and a dialogue over it has both its
requests refused. -/
theorem refusal_changes_nothing_in_broken_file :
    let missing : FileStore := ⟨⟨[0x64, 0x2F, 0x68]⟩, ⟨[([[0x68]], .file [0x5B, 0x5D])], []⟩⟩
    let broken : FileStore := ⟨⟨[0x68]⟩, ⟨[([[0x68]], .file [0xFF])], []⟩⟩
    let uses : List Use :=
      [.single .readAll, .dialogue (.ofInput (Text.encode "1 + 1\nno\nyes\n"))]
    ((Store.readAll missing).result = .ok [] ∧
      (Store.append missing ⟨"1 + 1", "2.0"⟩).result = .error (.file .notFound) ∧
      (Store.append missing ⟨"1 + 1", "2.0"⟩).store = missing) ∧
    (Store.readAll broken).result = .error (.file .notText) ∧ performAll broken uses = broken ∧
      (performAll (Recorded.ofStore broken) uses).exchanges =
        [(.readAll, .entries (.error (.file .notText))),
          (.append ⟨"1 + 1", "2.0"⟩, .appended (.error (.file .notText))),
          (.readAll, .entries (.error (.file .notText)))] := by
  intro missing broken uses
  have refused : (Store.append missing ⟨"1 + 1", "2.0"⟩).result = .error (.file .notFound) := rfl
  have unreadable : (Store.readAll broken).result = .error (.file .notText) := rfl
  obtain ⟨unchanged, -⟩ := (refusal_changes_nothing missing).1 _ _ refused
  obtain ⟨stays, -, answers⟩ := (refusal_changes_nothing broken).2 _ unreadable uses
  have requests : (performAll (Recorded.ofStore broken) uses).exchanges.map Prod.fst =
      [.readAll, .append ⟨"1 + 1", "2.0"⟩, .readAll] := by
    let session := Session.start (.ofInput (Text.encode "1 + 1\nno\nyes\n"))
      ((Request.serve (Recorded.ofStore broken) .readAll).2)
    have enough : session.unreadCount < 14 := by decide
    have course : session.run = _ := Session.run_eq_upTo session enough
    change session.run.2.store.exchanges.map Prod.fst = _
    rw [course]
    decide +kernel
  refine ⟨⟨rfl, refused, unchanged⟩, unreadable, stays, ?_⟩
  -- the answers are known from the requests
  have refusals : (performAll (Recorded.ofStore broken) uses).exchanges =
      ((performAll (Recorded.ofStore broken) uses).exchanges.map Prod.fst).map fun request =>
        (request, request.refusal (.file .notText)) := by
    rw [List.map_map]
    exact (List.map_id _).symm.trans
      (List.map_congr_left fun exchange member => Prod.ext rfl (answers _ _ member))
  rw [refusals, requests]
  rfl

end Calculator.History
