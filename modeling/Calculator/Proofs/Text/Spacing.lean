import Calculator.Proofs.Text.Pieces

/-!
# The blanks of a text

Any blanks may stand before the first piece of a text and after the last one, and at least one has
to stand between two. `Spaced` says so without cutting anything, and every text is spaced so for
exactly the pieces that it is cut into (`pieces_eq_iff`). Blanks between two texts therefore keep
their pieces apart (`pieces_append_gap`), and texts that differ in their blanks only have the same
pieces (`respaced_iff`).
-/

namespace Calculator.Text

/-- Characters that are all blank; there may be none. -/
def IsGap (gap : List Char) : Prop := ∀ c ∈ gap, isBlank c = true

/-- Pieces and a text that has them, with blanks around and between them. -/
inductive Spaced : List (List Char) → List Char → Prop where
  /-- A text may be empty. -/
  | nothing : Spaced [] []
  /-- A blank may stand before anything. -/
  | blank {blank : Char} {parts : List (List Char)} {text : List Char} :
    isBlank blank = true → Spaced parts text → Spaced parts (blank :: text)
  /-- The last piece may end the text. -/
  | last {piece : List Char} : IsPiece piece → Spaced [piece] piece
  /-- A blank has to keep a piece from the next one. -/
  | next {piece rest : List Char} {blank : Char} {others : List (List Char)} :
    IsPiece piece → isBlank blank = true → Spaced others rest →
      Spaced (piece :: others) (piece ++ blank :: rest)

/-- Texts that differ in the blanks around and between their pieces only. -/
def Respaced (text other : List Char) : Prop := ∃ parts, Spaced parts text ∧ Spaced parts other

variable {gap first second text other : List Char} {parts : List (List Char)}

/-! ## Pieces beside blanks -/

/-- A blank before a text has no part in its pieces. -/
theorem pieces_cons_blank {blank : Char} (h : isBlank blank = true) (text : List Char) :
    pieces (blank :: text) = pieces text :=
  pieces_append_blank h [] text

/-- Nor have several of them. -/
theorem pieces_gap_append (h : IsGap gap) (text : List Char) :
    pieces (gap ++ text) = pieces text := by
  induction gap with
  | nil => rfl
  | cons blank gap ih =>
    obtain ⟨blanks, others⟩ := List.forall_mem_cons.mp h
    rw [List.cons_append, pieces_cons_blank blanks, ih others]

/-- Blanks between two texts keep their pieces apart, whatever blanks these texts have. -/
theorem pieces_append_gap (h : IsGap gap) (some : gap ≠ []) (first second : List Char) :
    pieces (first ++ gap ++ second) = pieces first ++ pieces second := by
  cases gap with
  | nil => exact absurd rfl some
  | cons blank gap =>
    obtain ⟨blanks, others⟩ := List.forall_mem_cons.mp h
    rw [List.append_assoc, List.cons_append, pieces_append_blank blanks, pieces_gap_append others]

/-! ## Spaced texts -/

/-- Pieces are found in whatever way they are spaced. -/
theorem Spaced.pieces_eq (spaced : Spaced parts text) : pieces text = parts := by
  induction spaced with
  | nothing => rfl
  | blank blanks _ ih => rw [pieces_cons_blank blanks, ih]
  | last piece => exact pieces_of_isPiece piece
  | next piece blanks _ ih =>
    rw [pieces_append_blank blanks, pieces_of_isPiece piece, ih]
    rfl

/-- What was read from the end is the piece being read and, after a blank, a spaced text. -/
inductive PieceScan.Covers : PieceScan → List Char → Prop where
  /-- No blank was read. -/
  | unended (current : List Char) : Covers ⟨current, []⟩ current
  /-- The piece being read ends at a blank. -/
  | ended {current rest : List Char} {blank : Char} {finished : List (List Char)} :
    isBlank blank = true → Spaced finished rest →
      Covers ⟨current, finished⟩ (current ++ blank :: rest)

namespace PieceScan.Covers

variable {scan : PieceScan}

/-- All that was read is spaced. -/
theorem spaced (covers : scan.Covers text) (solid : scan.Solid) : Spaced scan.pieces text := by
  rw [PieceScan.pieces]
  -- Nothing is a piece where no character was read since the latest blank.
  cases covers with
  | unended =>
    split
    · rename_i none
      obtain rfl : text = [] := none
      exact .nothing
    · rename_i some
      exact .last ⟨some, solid.current⟩
  | ended blanks rest =>
    split
    · rename_i none
      dsimp only at none
      rw [none]
      exact .blank blanks rest
    · rename_i some
      exact .next ⟨some, solid.current⟩ blanks rest

/-- A blank ends what was read, and any other character belongs to the piece being read. -/
theorem extend (covers : scan.Covers text) (solid : scan.Solid) (c : Char) :
    (scan.extend c).Covers (c :: text) := by
  rw [PieceScan.extend]
  split
  · rename_i blanks
    exact .ended blanks (covers.spaced solid)
  · cases covers with
    | unended => exact .unended (c :: text)
    | ended blanks rest => exact .ended blanks rest

end PieceScan.Covers

/-- Every text is spaced. -/
theorem spaced_pieces (text : List Char) : Spaced (pieces text) text := by
  have covers : (text.foldr PieceScan.extend ⟨[], []⟩).Covers text := by
    induction text with
    | nil => exact .unended []
    | cons c text ih => exact ih.extend (PieceScan.solid_foldr text) c
  exact covers.spaced (PieceScan.solid_foldr text)

/-- A text is cut into the pieces that it is spaced for. -/
theorem pieces_eq_iff : pieces text = parts ↔ Spaced parts text := by
  constructor
  · rintro rfl
    exact spaced_pieces text
  · exact Spaced.pieces_eq

/-- Texts differ in their blanks only if and only if they have the same pieces. -/
theorem respaced_iff : Respaced text other ↔ pieces text = pieces other := by
  simp only [Respaced, ← pieces_eq_iff, exists_eq_left']
  exact eq_comm

/-- Blanks may be put around a text. -/
theorem respaced_append {before after : List Char} (leading : IsGap before)
    (trailing : IsGap after) (text : List Char) : Respaced (before ++ text ++ after) text := by
  rw [respaced_iff, List.append_assoc, pieces_gap_append leading]
  by_cases none : after = []
  · rw [none, List.append_nil]
  · have apart := pieces_append_gap trailing none text []
    rw [List.append_nil] at apart
    rw [apart]
    exact List.append_nil _

end Calculator.Text
