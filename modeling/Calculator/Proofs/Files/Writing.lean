import Calculator.Files.FileSystem
import Calculator.Proofs.Steps

/-!
# What is written is read

A path is followed through directories only, and a file is never written in the place of one. So
writing leaves every way through the file system open, that of its own path included: the content
is found where it was put, and the same path can be written again. A file that can be read can be
written too, since a path that ends in a name reads and writes the same place.
-/

namespace Calculator.Files.FileSystem

variable {files written : FileSystem} {path : Path} {location place other : Location}
  {content : List UInt8}

/-! ## Nodes -/

/-- A node is found where it was put. -/
theorem node?_put_self (h : location ≠ []) (node : Node) :
    (files.put location node).node? location = some node := by
  simp [node?, put, h]

/-- No other place changes. -/
theorem node?_put_of_ne (h : other ≠ location) (node : Node) :
    (files.put location node).node? other = files.node? other := by
  have kept : ∀ nodes : List (Location × Node),
      (nodes.filter (·.1 != location)).lookup other = nodes.lookup other := by
    intro nodes
    induction nodes with
    | nil => rfl
    | cons first nodes ih =>
      by_cases replaced : first.1 = location
      · rw [List.filter_cons_of_neg (by simp [replaced]), ih, List.lookup_cons, replaced,
          beq_false_of_ne h]
      · rw [List.filter_cons_of_pos (by simp [replaced]), List.lookup_cons, List.lookup_cons, ih]
  simp only [node?, put, List.lookup_cons, beq_false_of_ne h, kept]

/-- What was put is gone when another node is put in its place. -/
theorem put_put (first second : Node) :
    (files.put location first).put location second = files.put location second := by
  simp [put]

/-- A place that is no directory is not the root. -/
theorem ne_nil_of_node?_ne (h : files.node? location ≠ some .directory) : location ≠ [] := by
  rintro rfl
  exact h rfl

/-! ## Ways -/

/-- A name leads on from a directory only. -/
theorem node?_of_enter {name : Name} {next : Location} (h : files.enter place name = .ok next) :
    files.node? place = some .directory := by
  unfold enter at h
  split at h
  · cases h
  · cases h
  · assumption

/-- A name leads to where it led before a node was put where no directory is. -/
theorem enter_put (free : files.node? location ≠ some .directory) (node : Node) {name : Name}
    {next : Location} (h : files.enter place name = .ok next) :
    (files.put location node).enter place name = .ok next := by
  have directory := node?_of_enter h
  have elsewhere : place ≠ location := by
    rintro rfl
    exact free directory
  rw [enter, node?_put_of_ne elsewhere]
  exact h

/-- Names lead to where they led before a node was put where no directory is. -/
theorem follow_put (free : files.node? location ≠ some .directory) (node : Node)
    {names : List Name} {last : Location} (h : files.follow place names = .ok last) :
    (files.put location node).follow place names = .ok last := by
  induction names generalizing place with
  | nil => exact h
  | cons name names ih =>
    rw [follow, List.foldlM_cons] at h
    obtain ⟨next, entered, followed⟩ := bind_eq_ok h
    rw [follow, List.foldlM_cons, enter_put free node entered]
    exact ih followed

/-- The last name is followed from where the others lead. -/
theorem follow_concat {names : List Name} {name : Name} {directory : Location}
    (h : files.follow place names = .ok directory) :
    files.follow place (names ++ [name]) = files.enter directory name := by
  unfold follow at h ⊢
  rw [List.foldlM_append, h]
  exact bind_pure (files.enter directory name)

/-- Names after others are followed from where the others lead. -/
theorem follow_append {names others : List Name} {last : Location}
    (h : files.follow place (names ++ others) = .ok last) :
    ∃ directory, files.follow place names = .ok directory ∧
      files.follow directory others = .ok last := by
  unfold follow at h ⊢
  rw [List.foldlM_append] at h
  exact bind_eq_ok h

/-- One name is followed by entering it. -/
theorem enter_of_follow {name : Name} {last : Location}
    (h : files.follow place [name] = .ok last) : files.enter place name = .ok last := by
  obtain ⟨next, entered, done⟩ := bind_eq_ok h
  cases done
  exact entered

/-- A path without names is one of slashes only. -/
theorem all_slash_of_components_eq_nil (h : path.components = []) :
    ∀ byte ∈ path.bytes, byte = Path.slash := by
  rw [Path.components] at h
  generalize path.bytes = bytes at h ⊢
  induction bytes with
  | nil => exact List.forall_mem_nil _
  | cons first bytes ih =>
    rw [List.splitOnP_cons_eq_if_modifyHead] at h
    split at h
    · rename_i slash
      exact List.forall_mem_cons.mpr ⟨eq_of_beq slash, ih (by simpa using h)⟩
    · -- a byte that is no slash is part of a name
      obtain ⟨name, names, split⟩ :=
        List.exists_cons_of_ne_nil (List.splitOnP_ne_nil (· == Path.slash) bytes)
      rw [split, List.modifyHead_cons, List.filter_cons_of_pos (by simp)] at h
      cases h

/-- A path that can be followed is not empty, and its names are its components. -/
theorem of_usableComponents {names : List Name} (h : usableComponents path = .ok names) :
    path.bytes ≠ [] ∧ names = path.components := by
  unfold usableComponents at h
  split at h
  · cases h
  split at h
  · cases h
  split at h
  · cases h
  · cases h
    exact ⟨‹path.bytes ≠ []›, rfl⟩

/-- A path that does not ask for a directory ends in a name. -/
theorem exists_last_component {names : List Name} (usable : usableComponents path = .ok names)
    (noSlash : path.endsInSlash = false) : ∃ way last, names = way ++ [last] := by
  obtain ⟨nonempty, rfl⟩ := of_usableComponents usable
  cases final : path.components.getLast? with
  | none =>
    have slashes := all_slash_of_components_eq_nil (List.getLast?_eq_none_iff.mp final)
    have byte : path.bytes.getLast? = some Path.slash := by
      rw [List.getLast?_eq_some_getLast nonempty, slashes _ (List.getLast_mem nonempty)]
    rw [Path.endsInSlash, byte] at noSlash
    cases noSlash
  | some last =>
    obtain ⟨way, same⟩ := List.getLast?_eq_some_iff.mp final
    exact ⟨way, last, same⟩

/-! ## Writing -/

/-- A path can be written if it leads by way of a directory to a place that is none. -/
theorem locateForWriting_eq_ok :
    files.locateForWriting path = .ok location ↔
      ∃ names directory, usableComponents path = .ok names ∧
        files.follow (files.origin path) names.dropLast = .ok directory ∧
        files.enter directory
          (if path.endsInSlash then Path.here else names.getLast?.getD Path.here) =
            .ok location ∧
        files.node? location ≠ some .directory := by
  constructor
  · intro h
    obtain ⟨names, usable, h⟩ := bind_eq_ok h
    obtain ⟨directory, followed, h⟩ := bind_eq_ok h
    obtain ⟨found, entered, h⟩ := bind_eq_ok h
    split at h
    · cases h
    · rename_i free
      cases h
      exact ⟨names, directory, usable, followed, entered, free⟩
  · rintro ⟨names, directory, usable, followed, entered, free⟩
    simp only [locateForWriting, usable, followed, entered, bind, Except.bind]
    exact if_neg free

/-- The place that is written is no directory. -/
theorem node?_of_locateForWriting (h : files.locateForWriting path = .ok location) :
    files.node? location ≠ some .directory := by
  obtain ⟨_, _, -, -, -, free⟩ := locateForWriting_eq_ok.mp h
  exact free

/-- The name of a directory inside itself leads to this directory. -/
theorem enter_here {next : Location} (h : files.enter place Path.here = .ok next) :
    next = place := by
  have directory := node?_of_enter h
  simp only [enter, directory, if_pos] at h
  exact (Except.ok.inj h).symm

/-- A path that can be written leads to the place that is written. -/
theorem locate_of_locateForWriting (h : files.locateForWriting path = .ok location) :
    files.locate path = .ok location := by
  obtain ⟨names, directory, usable, followed, entered, free⟩ := locateForWriting_eq_ok.mp h
  -- a way that ends at a directory cannot be written
  have named : ∀ name, files.enter directory name = .ok location → name ≠ Path.here := by
    rintro name entered rfl
    have same := enter_here entered
    exact free (same ▸ node?_of_enter entered)
  have noSlash : path.endsInSlash = false := by
    cases slash : path.endsInSlash with
    | false => rfl
    | true =>
      rw [slash] at entered
      exact absurd rfl (named _ entered)
  rw [noSlash] at entered
  cases split : names.getLast? with
  | none =>
    rw [split] at entered
    exact absurd rfl (named _ entered)
  | some last =>
    rw [split] at entered
    obtain ⟨way, rfl⟩ := List.getLast?_eq_some_iff.mp split
    rw [List.dropLast_concat] at followed
    simp only [locate, usable, noSlash, bind, Except.bind]
    rw [if_neg Bool.false_ne_true, follow_concat followed]
    exact entered

/-- A path that was written can be written again, and is written in the same place. -/
theorem locateForWriting_put (h : files.locateForWriting path = .ok location)
    (content : List UInt8) :
    (files.put location (.file content)).locateForWriting path = .ok location := by
  obtain ⟨names, directory, usable, followed, entered, free⟩ := locateForWriting_eq_ok.mp h
  refine locateForWriting_eq_ok.mpr ⟨names, directory, usable, follow_put free _ followed,
    enter_put free _ entered, ?_⟩
  rw [node?_put_self (ne_nil_of_node?_ne free)]
  simp

/-- A path that leads to a file can be written. -/
theorem locateForWriting_of_locate (h : files.locate path = .ok location)
    (file : files.node? location = some (.file content)) :
    files.locateForWriting path = .ok location := by
  obtain ⟨names, usable, followed⟩ := bind_eq_ok h
  cases slash : path.endsInSlash with
  | true =>
    -- what is asked for is a directory, and a file is none
    rw [slash, if_pos rfl] at followed
    obtain ⟨directory, -, last⟩ := follow_append followed
    have entered := enter_of_follow last
    have found := node?_of_enter entered
    rw [← enter_here entered, file] at found
    cases found
  | false =>
    rw [slash, if_neg Bool.false_ne_true] at followed
    obtain ⟨way, last, rfl⟩ := exists_last_component usable slash
    obtain ⟨directory, first, rest⟩ := follow_append followed
    refine locateForWriting_eq_ok.mpr ⟨way ++ [last], directory, usable, ?_, ?_, ?_⟩
    · rw [List.dropLast_concat]
      exact first
    · rw [slash, if_neg Bool.false_ne_true, List.getLast?_concat]
      exact enter_of_follow rest
    · rw [file]
      nofun

/-- Writing puts the content in the place of the path. -/
theorem write_eq_ok (h : files.write path content = .ok written) :
    ∃ location, files.locateForWriting path = .ok location ∧
      written = files.put location (.file content) := by
  obtain ⟨location, located, put⟩ := bind_eq_ok h
  exact ⟨location, located, (Except.ok.inj put).symm⟩

/-- What is written at a path is read at it. -/
theorem read_of_write (h : files.write path content = .ok written) :
    written.read path = .ok content := by
  obtain ⟨location, located, rfl⟩ := write_eq_ok h
  have again := locate_of_locateForWriting (locateForWriting_put located content)
  have found : (files.put location (.file content)).node? location = some (.file content) :=
    node?_put_self (ne_nil_of_node?_ne (node?_of_locateForWriting located)) _
  simp only [read, again, found, bind, Except.bind]

/-- Writing a path a second time gives what writing it the second time alone would have given. -/
theorem write_of_write (h : files.write path content = .ok written) (second : List UInt8) :
    written.write path second = files.write path second := by
  obtain ⟨location, located, rfl⟩ := write_eq_ok h
  have again := locateForWriting_put located content
  simp only [write, again, located, bind, Except.bind, put_put]

/-- Whether a path can be written does not depend on the content. -/
theorem write_isOk (h : files.write path content = .ok written) (second : List UInt8) :
    ∃ after, files.write path second = .ok after := by
  obtain ⟨location, located, -⟩ := write_eq_ok h
  refine ⟨files.put location (.file second), ?_⟩
  simp only [write, located, bind, Except.bind]

/-- A file that can be read can be written. -/
theorem write_isOk_of_read (h : files.read path = .ok content) (second : List UInt8) :
    ∃ after, files.write path second = .ok after := by
  obtain ⟨location, located, found⟩ := bind_eq_ok h
  split at found
  · cases found
  · cases found
  · rename_i file
    have writable := locateForWriting_of_locate located file
    refine ⟨files.put location (.file second), ?_⟩
    simp only [write, writable, bind, Except.bind]

/-- Writing changes one place, and not where relative paths start. -/
theorem exists_place_of_write (h : files.write path content = .ok written) :
    ∃ place, files.locateForWriting path = .ok place ∧
      written.node? place = some (.file content) ∧ written.working = files.working ∧
      ∀ other, other ≠ place → written.node? other = files.node? other := by
  obtain ⟨place, located, rfl⟩ := write_eq_ok h
  have notRoot := ne_nil_of_node?_ne (node?_of_locateForWriting located)
  exact ⟨place, located, node?_put_self notRoot _, rfl,
    fun other elsewhere => node?_put_of_ne elsewhere _⟩

end Calculator.Files.FileSystem
