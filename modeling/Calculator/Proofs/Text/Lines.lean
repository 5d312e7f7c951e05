import Calculator.Proofs.Text.Bytes
import Calculator.Text.Lines

/-!
# Lines as bytes

In UTF-8 the line feed is a byte that no other character has in it. So a text is cut into the same
lines before and after it is encoded.
-/

namespace Calculator.Text

/-- Texts that are lines one after another: each ends in its only line feed, but for the last one,
which may have none. -/
inductive AreLines : List String → Prop where
  /-- No lines at all. -/
  | none : AreLines []
  /-- A last line without a line feed. -/
  | last {line : String} (some : line ≠ "") (unended : '\n' ∉ line.toList) : AreLines [line]
  /-- A line with its line feed. -/
  | next {line : String} {lines : List String} (unended : '\n' ∉ line.toList)
      (rest : AreLines lines) : AreLines ((line ++ "\n") :: lines)

/-- A character before the first line makes that line longer. -/
theorem AreLines.cons {c : Char} (other : c ≠ '\n') {line : String} {lines : List String}
    (h : AreLines (line :: lines)) : AreLines ((String.singleton c ++ line) :: lines) := by
  cases h with
  | last some unended =>
    refine .last (fun empty => ?_) ?_
    · have := congrArg String.toList empty
      simp at this
    · simpa [eq_comm] using ⟨other, unended⟩
  | next unended rest =>
    rw [← String.append_assoc]
    exact .next (by simpa [eq_comm] using ⟨other, unended⟩) rest

/-- A line is not empty. -/
theorem AreLines.ne_empty {line : String} {lines : List String}
    (cut : AreLines (line :: lines)) : line ≠ "" := by
  cases cut with
  | last some unended => exact some
  | next unended rest => simp

/-- What comes after a line are lines. -/
theorem AreLines.tail {line : String} {lines : List String}
    (cut : AreLines (line :: lines)) : AreLines lines := by
  cases cut with
  | last some unended => exact .none
  | next unended rest => exact rest

/-- Any characters are cut into lines. -/
theorem areLines_linesOf (characters : List Char) : AreLines (linesOf characters) := by
  induction characters with
  | nil => exact .none
  | cons c rest ih =>
    rw [linesOf]
    by_cases feed : c = '\n'
    · rw [if_pos feed]
      have first : AreLines (("" ++ "\n") :: linesOf rest) := .next (by simp) ih
      exact first
    · rw [if_neg feed]
      cases cut : linesOf rest with
      | nil =>
        refine .last (fun empty => ?_) (by simpa [eq_comm] using feed)
        have := congrArg String.toList empty
        simp at this
      | cons line lines =>
        rw [cut] at ih
        exact ih.cons feed

/-- A line feed ends the first line. -/
theorem lines_append {line : String} (single : '\n' ∉ line.toList) (rest : String) :
    lines (line ++ "\n" ++ rest) = (line ++ "\n") :: lines rest := by
  have cut : ∀ characters : List Char, '\n' ∉ characters →
      linesOf (characters ++ '\n' :: rest.toList) =
        (String.ofList characters ++ "\n") :: linesOf rest.toList := by
    intro characters single
    induction characters with
    | nil => rfl
    | cons c characters ih =>
      rw [List.mem_cons, not_or] at single
      rw [List.cons_append, linesOf, if_neg (Ne.symm single.1), ih single.2]
      simp [String.ofList_cons, String.append_assoc]
  have characters : (line ++ "\n" ++ rest).toList = line.toList ++ '\n' :: rest.toList := by
    simp
  rw [lines, characters, cut _ single, String.ofList_toList, lines]

/-- A text is the text of its lines. -/
theorem flatMap_lines (text : String) : (lines text).flatMap encode = encode text := by
  rw [lines, encode]
  induction text.toList with
  | nil => rfl
  | cons c rest ih =>
    rw [linesOf, List.flatMap_cons, ← ih]
    by_cases feed : c = '\n'
    · rw [if_pos feed, feed]
      rfl
    · rw [if_neg feed]
      cases linesOf rest with
      | nil => simp [encode]
      | cons line lines => simp [encode]

/-- Numbers that do not leave ten are not the byte of the line feed. -/
theorem notMem_map_ofNat {numbers : List Nat} (h : ∀ n ∈ numbers, n % 256 ≠ 10) :
    0x0A ∉ numbers.map UInt8.ofNat := by
  intro member
  obtain ⟨n, listed, byte⟩ := List.mem_map.mp member
  have value := congrArg UInt8.toNat byte
  rw [UInt8.toNat_ofNat'] at value
  exact h n listed value

/-- No other character has the byte of the line feed in it. -/
theorem notMem_utf8EncodeChar {c : Char} (other : c ≠ '\n') :
    0x0A ∉ String.utf8EncodeChar c := by
  have code : c.val.toNat ≠ 10 := fun same => other (Char.ext (UInt32.toNat_inj.mp same))
  unfold String.utf8EncodeChar
  dsimp only
  -- only a character of one byte has a byte below 128
  split
  · refine notMem_map_ofNat (?_ : ∀ n ∈ [_], n % 256 ≠ 10)
    simp only [List.forall_mem_cons, List.not_mem_nil, false_implies, implies_true, and_true]
    omega
  split
  · refine notMem_map_ofNat (?_ : ∀ n ∈ [_, _], n % 256 ≠ 10)
    simp only [List.forall_mem_cons, List.not_mem_nil, false_implies, implies_true, and_true]
    omega
  split
  · refine notMem_map_ofNat (?_ : ∀ n ∈ [_, _, _], n % 256 ≠ 10)
    simp only [List.forall_mem_cons, List.not_mem_nil, false_implies, implies_true, and_true]
    omega
  · refine notMem_map_ofNat (?_ : ∀ n ∈ [_, _, _, _], n % 256 ≠ 10)
    simp only [List.forall_mem_cons, List.not_mem_nil, false_implies, implies_true, and_true]
    omega

/-- A text has the byte of the line feed only if it has a line feed. -/
theorem notMem_encode {text : String} (h : '\n' ∉ text.toList) : 0x0A ∉ encode text := by
  intro member
  obtain ⟨c, character, byte⟩ := List.mem_flatMap.mp member
  exact notMem_utf8EncodeChar (fun feed => h (feed ▸ character)) byte

/-- Only the empty text has no bytes. -/
theorem encode_ne_nil {text : String} (h : text ≠ "") : encode text ≠ [] := by
  intro nothing
  have decoded := decode?_encode text
  rw [nothing] at decoded
  exact h (Option.some.inj decoded).symm

end Calculator.Text
