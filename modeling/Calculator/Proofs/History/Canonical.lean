import Calculator.History.Canonical
import Calculator.Proofs.History.Refinement

/-!
# An added entry leaves the canonical text

Whatever the file was like before, it is written in full: its content is the canonical text of the
entries that were read from it and the added one (`ofList_write`), so it depends on these alone. The
file is the only one that changes, since writing puts one node in its place.
-/

namespace Calculator.History

/-! ## Characters -/

/-- Characters that may stand for themselves are written so. -/
theorem writeChar_of_isPlain {c : Char} (plain : Json.IsPlain c) : Json.writeChar c = [c] := by
  obtain ⟨quote, backslash, printed⟩ := plain
  unfold Json.writeChar
  split
  case h_1 => exact absurd rfl quote
  case h_2 => exact absurd rfl backslash
  case h_8 => exact if_neg (Nat.not_lt.mpr printed)
  -- the others are below U+0020
  all_goals exact absurd printed (by decide)

/-- Characters below U+0020 are written as their escapes. -/
theorem writeChar_control : ∀ number < 0x20,
    (canonicalChar (Char.ofNat number)).toList = Json.writeChar (Char.ofNat number) := by
  decide +kernel

/-- Every character is written in its canonical form. -/
theorem toList_canonicalChar (c : Char) : (canonicalChar c).toList = Json.writeChar c := by
  by_cases control : c.toNat < 0x20
  · have written := writeChar_control c.toNat control
    rwa [Char.ofNat_toNat] at written
  by_cases quote : c = '"'
  · subst quote
    rfl
  by_cases backslash : c = '\\'
  · subst backslash
    rfl
  have printed : 0x20 ≤ c.toNat := Nat.le_of_not_lt control
  have noControl : controlEscapes[c.toNat]? = none := List.getElem?_eq_none printed
  rw [writeChar_of_isPlain ⟨quote, backslash, printed⟩, canonicalChar, if_neg quote,
    if_neg backslash, noControl]
  exact String.toList_singleton c

/-- Every string is written in its canonical form. -/
theorem toList_canonicalString (text : String) :
    (canonicalString text).toList = Json.writeText text.toList := by
  have content : (String.join (text.toList.map canonicalChar)).toList =
      text.toList.flatMap Json.writeChar := by
    rw [String.toList_join, List.flatMap_map]
    simp only [toList_canonicalChar]
  rw [canonicalString, String.toList_append, String.toList_append, content]
  rfl

/-! ## Lines -/

/-- An entry is written in its canonical form. -/
theorem toList_canonicalEntry (entry : Entry) :
    (canonicalEntry entry).toList = writeEntry entry := by
  simp only [canonicalEntry, String.toList_append, toList_canonicalString, writeEntry, writeMember,
    List.append_assoc]
  rfl

/-- A history with an entry is written in its canonical form. -/
theorem ofList_write {entries : List Entry} (nonempty : entries ≠ []) :
    String.ofList (write entries) = canonicalText entries := by
  have lines : (entries.map canonicalEntry).map String.toList = entries.map writeEntry := by
    rw [List.map_map]
    exact List.map_congr_left fun entry _ => toList_canonicalEntry entry
  rw [← String.toList_inj, String.toList_ofList, write, if_neg nonempty, canonicalText,
    String.toList_append, String.toList_append, String.toList_intercalate, lines]
  rfl

/-! ## Files -/

variable {path : Files.Path} {files written : Files.FileSystem} {entries : List Entry}
  {content : List UInt8}

/-- The bytes that are written for entries are those of their canonical text. -/
theorem contentOf_eq (nonempty : entries ≠ []) :
    contentOf entries = Text.encode (canonicalText entries) := by
  rw [contentOf, ofList_write nonempty]

/-- Adding an entry writes the file once, with all entries. -/
theorem FileStore.append_eq
    (found : (Store.readAll (⟨path, files⟩ : FileStore)).result = .ok entries)
    (entry : Entry) (success : files.write path (contentOf (entries ++ [entry])) = .ok written) :
    (Store.append (⟨path, files⟩ : FileStore) entry).result = .ok () ∧
      (Store.append (⟨path, files⟩ : FileStore) entry).store = ⟨path, written⟩ := by
  have read : entriesFound (FileStore.content ⟨path, files⟩) = .ok entries := found
  change (FileStore.append _ entry).result = _ ∧ (FileStore.append _ entry).store = _
  rw [FileStore.append_of_readable read, FileStore.writeAll, success]
  exact ⟨rfl, rfl⟩

/-- An entry can be added to a file that can be read and written, whatever its content is like. The
file then holds the canonical text of the entries that were read and the added one, and nothing
after it; nothing else has changed, and reading entries never changes anything. -/
theorem append_writes_canonicalText
    (found : (Store.readAll (⟨path, files⟩ : FileStore)).result = .ok entries)
    (writable : files.write path content = .ok written) (entry : Entry) :
    (∃ after : Files.FileSystem,
      (Store.append (⟨path, files⟩ : FileStore) entry).result = .ok () ∧
      (Store.append (⟨path, files⟩ : FileStore) entry).store = ⟨path, after⟩ ∧
      after.read path = .ok (Text.encode (canonicalText (entries ++ [entry]))) ∧
      ∃ place, files.locateForWriting path = .ok place ∧
        after.node? place =
          some (.file (Text.encode (canonicalText (entries ++ [entry])))) ∧
        after.working = files.working ∧
        ∀ other, other ≠ place → after.node? other = files.node? other) ∧
    ∀ store : FileStore, (Store.readAll store).store = store := by
  refine ⟨?_, fun store => rfl⟩
  have some : entries ++ [entry] ≠ [] := List.append_ne_nil_of_right_ne_nil _ (List.cons_ne_nil _ _)
  obtain ⟨after, success⟩ :=
    Files.FileSystem.write_isOk writable (contentOf (entries ++ [entry]))
  obtain ⟨added, store⟩ := FileStore.append_eq found entry success
  rw [contentOf_eq some] at success
  exact ⟨after, added, store, Files.FileSystem.read_of_write success,
    Files.FileSystem.exists_place_of_write success⟩

/-- A file of blanks that are none in JSON, and another file beside it. -/
def blankFiles : Files.FileSystem :=
  ⟨[([[0x68]], .file (Text.encode "\u2003\n")), ([[0x6B]], .file [1])], []⟩

/-- The first entry of such a file takes the place of the blanks, and the file beside it stays. -/
theorem canonicalText_replaces_blanks :
    ∃ after : Files.FileSystem,
      (Store.append (⟨⟨[0x68]⟩, blankFiles⟩ : FileStore) ⟨"\"\x01", "é"⟩).result = .ok () ∧
      (Store.append (⟨⟨[0x68]⟩, blankFiles⟩ : FileStore) ⟨"\"\x01", "é"⟩).store =
        ⟨⟨[0x68]⟩, after⟩ ∧
      after.read ⟨[0x68]⟩ = .ok (Text.encode (
        "[\n    \x7b\n        \"Expression\": \"\\\"\\u0001\",\n" ++
          "        \"Result\": \"é\"\n    \x7d\n]")) ∧
      after.node? [[0x6B]] = some (.file [1]) := by
  have found : (Store.readAll (⟨⟨[0x68]⟩, blankFiles⟩ : FileStore)).result = .ok [] := by
    change entriesOf (Text.encode "\u2003\n") = .ok []
    rw [entriesOf, Text.decode?_encode]
    rfl
  have writable : blankFiles.write ⟨[0x68]⟩ [] =
      .ok ⟨[([[0x68]], .file []), ([[0x6B]], .file [1])], []⟩ := rfl
  obtain ⟨after, added, store, read, place, located, -, -, others⟩ :=
    (append_writes_canonicalText found writable ⟨"\"\x01", "é"⟩).1
  obtain rfl : [[0x68]] = place := Except.ok.inj located
  exact ⟨after, added, store, read, others [[0x6B]] (by decide)⟩

end Calculator.History
