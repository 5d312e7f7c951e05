import Calculator.Proofs.History.Rendering

/-!
# A written history reads back

The writer lays a history out in one way among all those in which it may stand: line feeds and
indentation are blanks, and every string is written as one of its forms. So what is written
renders its entries (`renders_write`), and is read like any other rendering of them, whatever
their texts hold.
-/

namespace Calculator.History

open Calculator.Json (IsBlanks isBlanks_nil)

/-- The blanks before a line. -/
theorem isBlanks_indent (level : Nat) : IsBlanks (indent level) := by
  intro c member
  rw [List.eq_of_mem_replicate member]
  exact List.mem_cons_self

/-- The end of a line and the blanks before the next one. -/
theorem isBlanks_newLine (level : Nat) : IsBlanks ('\n' :: indent level) := by
  intro c member
  rcases List.mem_cons.mp member with rfl | member
  · decide
  · exact isBlanks_indent level c member

/-- What is written after the blanks of a line for a member is one of its renderings. -/
theorem rendersMember_write {entry : Entry} {name value : String}
    (h : RendersValue entry name (Json.writeText value.toList)) :
    ∃ member, writeMember name value = indent 2 ++ member ∧ RendersMember entry name member := by
  have space : IsBlanks [' '] := Json.isBlanks_singleton rfl
  refine ⟨_, ?_, .pair (Json.isString_writeText name) isBlanks_nil space h⟩
  simp [writeMember]

/-- What is written after the first blanks for an entry is one of its renderings. -/
theorem rendersEntry_write (entry : Entry) :
    ∃ object, writeEntry entry = indent 1 ++ object ∧ RendersEntry entry object := by
  obtain ⟨expression, firstLine, first⟩ :=
    rendersMember_write (.expression (Json.isString_writeText entry.expression))
  obtain ⟨result, secondLine, second⟩ :=
    rendersMember_write (.result (Json.isString_writeText entry.result))
  have members := RendersMembers.next first isBlanks_nil (isBlanks_newLine 2)
    (.last second (isBlanks_newLine 1))
  refine ⟨_, ?_, .object (isBlanks_newLine 2) members (by decide) (by decide)⟩
  simp [writeEntry, firstLine, secondLine]

/-- What is written after the first blanks for a list of entries is one of its renderings. -/
theorem rendersEntries_write (first : Entry) (others : List Entry) :
    ∃ objects, [',', '\n'].intercalate ((first :: others).map writeEntry) ++ ['\n'] =
      indent 1 ++ objects ∧ RendersEntries (first :: others) objects := by
  induction others generalizing first with
  | nil =>
    obtain ⟨object, line, renders⟩ := rendersEntry_write first
    refine ⟨_, ?_, .last renders (isBlanks_newLine 0)⟩
    simp [line, indent]
  | cons second others ih =>
    obtain ⟨object, line, renders⟩ := rendersEntry_write first
    obtain ⟨objects, lines, rendersOthers⟩ := ih second
    refine ⟨_, ?_, .next renders isBlanks_nil (isBlanks_newLine 1) rendersOthers⟩
    rw [List.map_cons] at lines
    rw [List.map_cons, List.map_cons, List.intercalate_cons_cons, List.append_assoc,
      List.append_assoc, lines, line]
    simp

/-- What is written for entries renders them. -/
theorem renders_write (entries : List Entry) : Renders entries (write entries) := by
  cases entries with
  | nil => exact .empty isBlanks_nil isBlanks_nil isBlanks_nil
  | cons first others =>
    obtain ⟨objects, lines, renders⟩ := rendersEntries_write first others
    have text : write (first :: others) = [] ++ '[' :: ('\n' :: indent 1) ++ objects ++ [']'] := by
      have closing : ['\n', ']'] = ['\n'] ++ [']'] := rfl
      rw [write, if_neg (List.cons_ne_nil first others), closing, List.append_assoc,
        ← List.append_assoc _ ['\n'], lines]
      simp
    rw [text]
    exact .filled isBlanks_nil (isBlanks_newLine 1) renders isBlanks_nil

/-- The content of a file with given entries is these entries. -/
theorem entriesOf_contentOf (entries : List Entry) :
    entriesOf (contentOf entries) = .ok entries := by
  refine entriesOf_encode ?_
  rw [String.toList_ofList]
  exact renders_write entries

end Calculator.History
