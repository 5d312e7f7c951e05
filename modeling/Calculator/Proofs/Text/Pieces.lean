import Calculator.Text.Blank

/-!
# Pieces between blanks

A piece is not empty and has no blank character in it. Every text is cut into such pieces
(`isPiece_of_mem_pieces`), and a blank separates what stands before it from what stands after it
(`pieces_append_blank`). So pieces that are written with blanks between them are found again
(`pieces_intercalate`).
-/

namespace Calculator.Text

/-- Characters that make up a single piece. -/
structure IsPiece (piece : List Char) : Prop where
  /-- There are some. -/
  ne_nil : piece ≠ []
  /-- None of them is blank. -/
  solid : ∀ c ∈ piece, isBlank c = false

namespace PieceScan

/-- What is read from the end so far are pieces, and the beginning of one. -/
structure Solid (scan : PieceScan) : Prop where
  /-- The piece being read has no blank characters. -/
  current : ∀ c ∈ scan.current, isBlank c = false
  /-- The finished ones are pieces. -/
  finished : ∀ piece ∈ scan.finished, IsPiece piece

/-- All that is read so far are pieces. -/
theorem Solid.pieces {scan : PieceScan} (solid : scan.Solid) :
    ∀ piece ∈ scan.pieces, IsPiece piece := by
  intro piece member
  rw [PieceScan.pieces] at member
  split at member
  · exact solid.finished piece member
  · rename_i some
    rcases List.mem_cons.mp member with rfl | member
    · exact ⟨some, solid.current⟩
    · exact solid.finished piece member

/-- A blank character ends a piece, and any other one belongs to it. -/
theorem Solid.extend {scan : PieceScan} (solid : scan.Solid) (c : Char) :
    (scan.extend c).Solid := by
  rw [PieceScan.extend]
  split
  · exact ⟨nofun, solid.pieces⟩
  · rename_i other
    refine ⟨?_, solid.finished⟩
    rw [List.forall_mem_cons]
    exact ⟨Bool.eq_false_iff.mpr other, solid.current⟩

/-- Finished pieces come after all others. -/
theorem pieces_append (scan : PieceScan) (later : List (List Char)) :
    PieceScan.pieces ⟨scan.current, scan.finished ++ later⟩ = scan.pieces ++ later := by
  rw [pieces, pieces]
  split <;> rfl

/-- Pieces that were finished before a text was read come after those of the text. -/
theorem foldr_extend (text : List Char) (later : List (List Char)) :
    text.foldr extend ⟨[], later⟩ =
      ⟨(text.foldr extend ⟨[], []⟩).current, (text.foldr extend ⟨[], []⟩).finished ++ later⟩ := by
  induction text with
  | nil => rfl
  | cons c text ih =>
    rw [List.foldr_cons, List.foldr_cons, ih, extend, extend]
    split
    · rw [pieces_append]
    · rfl

end PieceScan

/-- A text is read as pieces from its end on. -/
theorem PieceScan.solid_foldr (text : List Char) : (text.foldr extend ⟨[], []⟩).Solid := by
  induction text with
  | nil => exact ⟨nofun, nofun⟩
  | cons c text ih => exact ih.extend c

/-- A text is cut into pieces. -/
theorem isPiece_of_mem_pieces {text piece : List Char} (member : piece ∈ pieces text) :
    IsPiece piece :=
  (PieceScan.solid_foldr text).pieces piece member

/-- A blank character separates the pieces before it from those after it. -/
theorem pieces_append_blank {blank : Char} (h : isBlank blank = true) (first rest : List Char) :
    pieces (first ++ blank :: rest) = pieces first ++ pieces rest := by
  have after : (blank :: rest).foldr PieceScan.extend ⟨[], []⟩ = ⟨[], pieces rest⟩ := by
    rw [List.foldr_cons, PieceScan.extend, if_pos h, pieces]
  rw [pieces, List.foldr_append, after, PieceScan.foldr_extend, PieceScan.pieces_append]
  rfl

/-- A piece on its own is cut into itself. -/
theorem pieces_of_isPiece {piece : List Char} (h : IsPiece piece) : pieces piece = [piece] := by
  have scanned : ∀ characters : List Char, (∀ c ∈ characters, isBlank c = false) →
      characters.foldr PieceScan.extend ⟨[], []⟩ = ⟨characters, []⟩ := by
    intro characters solid
    induction characters with
    | nil => rfl
    | cons c characters ih =>
      obtain ⟨first, others⟩ := List.forall_mem_cons.mp solid
      rw [List.foldr_cons, ih others, PieceScan.extend, first, if_neg Bool.false_ne_true]
  rw [pieces, scanned piece h.solid, PieceScan.pieces, if_neg h.ne_nil]

/-- Pieces with a blank between any two of them are cut into themselves. -/
theorem pieces_intercalate {blank : Char} (blanks : isBlank blank = true)
    {parts : List (List Char)} (solid : ∀ piece ∈ parts, IsPiece piece) :
    pieces ([blank].intercalate parts) = parts := by
  induction parts with
  | nil => rfl
  | cons first others ih =>
    obtain ⟨piece, rest⟩ := List.forall_mem_cons.mp solid
    cases others with
    | nil =>
      rw [List.intercalate_singleton]
      exact pieces_of_isPiece piece
    | cons second others =>
      rw [List.intercalate_cons_cons, List.append_assoc, List.singleton_append,
        pieces_append_blank blanks, ih rest, pieces_of_isPiece piece]
      rfl

end Calculator.Text
