import Calculator.Proofs.History.Refinement

/-!
# Stores only grow

Whatever a store is asked, reading it afterwards gives what it gave before and possibly more: the
same entries followed by others, or the same failure (`Grows`). Both stores are of this kind, in
whatever state they are: a store in memory that is out of order, and a file that cannot be read or
written or holds something else, stay as they are.
-/

namespace Calculator.History

/-- Reading the later store fails as reading the earlier one does, or gives its entries first. -/
def Grows {σ : Type} [Store σ] (earlier later : σ) : Prop :=
  (∃ error, (Store.readAll earlier).result = .error error ∧
    (Store.readAll later).result = .error error) ∨
  ∃ entries added, (Store.readAll earlier).result = .ok entries ∧
    (Store.readAll later).result = .ok (entries ++ added)

/-- Stores that no operation takes anything from. -/
class Growing (σ : Type) [Store σ] : Prop where
  /-- Adding an entry takes nothing away, whether it is added or not. -/
  append : ∀ (store : σ) (entry : Entry), Grows store (Store.append store entry).store
  /-- Reading takes nothing away. -/
  readAll : ∀ store : σ, Grows store (Store.readAll store).store

namespace Grows

variable {σ : Type} [Store σ] {first second third : σ}

/-- A store that reads alike has not lost anything. -/
theorem of_result_eq (same : (Store.readAll second).result = (Store.readAll first).result) :
    Grows first second := by
  cases read : (Store.readAll first).result with
  | error error => exact .inl ⟨error, read, same.trans read⟩
  | ok entries =>
    refine .inr ⟨entries, [], read, ?_⟩
    rw [List.append_nil]
    exact same.trans read

/-- A store that does not change grows by nothing. -/
theorem refl (store : σ) : Grows store store := of_result_eq rfl

/-- What grew twice has grown. -/
theorem trans (once : Grows first second) (again : Grows second third) : Grows first third := by
  rcases once with ⟨error, before, between⟩ | ⟨entries, added, before, between⟩
  · rcases again with ⟨other, failure, after⟩ | ⟨others, more, reading, after⟩
    · rw [between] at failure
      obtain rfl := Except.error.inj failure
      exact .inl ⟨error, before, after⟩
    · rw [between] at reading
      cases reading
  · rcases again with ⟨other, failure, after⟩ | ⟨others, more, reading, after⟩
    · rw [between] at failure
      cases failure
    · rw [between] at reading
      obtain rfl := Except.ok.inj reading
      refine .inr ⟨entries, added ++ more, before, ?_⟩
      rw [after, List.append_assoc]

end Grows

/-- A store in memory grows, also when it is out of order. -/
instance : Growing MemoryStore where
  append store entry := by
    obtain ⟨entries, appendFault, readFault⟩ := store
    cases appendFault with
    | some message => exact .refl _
    | none =>
      cases readFault with
      | some message => exact .inl ⟨_, rfl, rfl⟩
      | none => exact .inr ⟨entries, [entry], rfl, rfl⟩
  readAll store := by
    obtain ⟨entries, appendFault, readFault⟩ := store
    cases readFault <;> exact .refl _

/-- Writing a file leaves it as it was or with the written entries. -/
theorem FileStore.writeAll_cases (store : FileStore) (entries : List Entry) :
    (store.writeAll entries).store = store ∨
      entriesFound (store.writeAll entries).store.content = .ok entries := by
  unfold writeAll
  split
  · exact .inl rfl
  · rename_i written success
    have reads := Files.FileSystem.read_of_write success
    refine .inr ?_
    change entriesFound (written.read store.path) = _
    rw [reads]
    exact entriesOf_contentOf entries

/-- A file grows, whatever is in it and whether or not it can be written. -/
instance : Growing FileStore where
  append store entry := by
    change Grows store (store.append entry).store
    cases found : entriesFound store.content with
    | error error =>
      rw [FileStore.append_of_unreadable found]
      exact .refl store
    | ok entries =>
      rw [FileStore.append_of_readable found]
      rcases store.writeAll_cases (entries ++ [entry]) with unchanged | written
      · exact .of_result_eq (congrArg (fun store => (Store.readAll store).result) unchanged)
      · exact .inr ⟨entries, [entry], found, written⟩
  readAll store := .refl store

end Calculator.History
