import Calculator.Expression.Stretch
import Calculator.Proofs.Expression.Arrangement

/-!
# What is written for a stretch

A stretch in the middle of an expression is not written in full when its last token has been read:
some of its operators still wait. The invariant (`Adds`) therefore speaks of what is written once
these are released. Their rank is at least that of the stretch, so the next operator at the
stretch's own level or below releases all of them, while the operators that waited before the
stretch rank lower and stay.
-/

namespace Calculator

/-- The least rank of the operators that may still wait when a stretch has been read. -/
def Stretch.rank : Stretch → Nat
  | .sum => 1
  | .product => 2
  | .operands | .operand => 3

namespace Arrangement

variable {state : Arrangement} {tokens output left right leftOutput rightOutput : List Token}
  {rank rightRank : Nat}

/-- Reading tokens adds an output, once the operators of at least a rank that still wait on top
of those that waited before are released. -/
def Adds (state : Arrangement) (tokens output : List Token) (rank : Nat) : Prop :=
  ∃ pending written,
    state.readAll tokens = .ok ⟨written, pending ++ state.waiting, state.enclosing⟩ ∧
      (∀ op ∈ pending, rank ≤ op.precedence) ∧
      release pending written = output.reverse ++ state.written

/-- No token adds nothing. -/
theorem adds_nil : state.Adds [] [] rank := ⟨[], state.written, rfl, by simp, rfl⟩

/-- A number adds itself. -/
theorem adds_number {text : String} {value : Float} :
    state.Adds [.number text value] [.number text value] rank :=
  ⟨[], .number text value :: state.written, rfl, by simp, rfl⟩

/-- The rank of the operators that still wait may be understated. -/
theorem Adds.mono {lower : Nat} (h : state.Adds tokens output rank) (le : lower ≤ rank) :
    state.Adds tokens output lower := by
  obtain ⟨pending, written, run, high, released⟩ := h
  exact ⟨pending, written, run, fun op member => Nat.le_trans le (high op member), released⟩

/-- Between parentheses, what tokens add is written in full. -/
theorem Adds.group {groupRank : Nat}
    (inner : (⟨state.written, [], state.waiting :: state.enclosing⟩ : Arrangement).Adds
      tokens output rank) :
    state.Adds (.opening :: tokens ++ [.closing]) output groupRank := by
  obtain ⟨pending, written, run, -, released⟩ := inner
  refine ⟨[], output.reverse ++ state.written, ?_, by simp, rfl⟩
  rw [readAll_parentheses run rfl]
  simp [released]

/-- An operator completes what is written before it, and waits for what is written after it. -/
theorem Adds.operator (op : Operator) (before : state.Adds left leftOutput rank)
    (low : ∀ earlier ∈ state.waiting, earlier.precedence < op.precedence)
    (after : (⟨leftOutput.reverse ++ state.written, op :: state.waiting, state.enclosing⟩ :
      Arrangement).Adds right rightOutput rightRank)
    (rank_le : op.precedence ≤ rank) (right_le : op.precedence ≤ rightRank) :
    state.Adds (left ++ .operator op :: right) (leftOutput ++ rightOutput ++ [.operator op])
      op.precedence := by
  obtain ⟨pending, written, run, high, released⟩ := before
  obtain ⟨later, laterWritten, laterRun, laterHigh, laterReleased⟩ := after
  have step := read_operator ⟨written, pending ++ state.waiting, state.enclosing⟩ op pending
    state.waiting rfl (fun earlier member => Nat.le_trans rank_le (high earlier member)) low
  simp only [released] at step
  refine ⟨later ++ [op], laterWritten, ?_, ?_, ?_⟩
  · rw [readAll_append_of_ok run, readAll_cons_of_ok step, laterRun]
    simp
  · intro earlier member
    rcases List.mem_append.mp member with member | member
    · exact Nat.le_trans right_le (laterHigh earlier member)
    · exact Nat.le_of_eq (congrArg Operator.precedence (List.mem_singleton.mp member).symm)
  · rw [release_append, laterReleased]
    simp [release]

/-- Where no operator waits any longer, all that was added is written. -/
theorem Adds.settled (h : state.Adds tokens output 3) :
    state.readAll tokens =
      .ok ⟨output.reverse ++ state.written, state.waiting, state.enclosing⟩ := by
  obtain ⟨pending, added, run, high, released⟩ := h
  cases pending with
  | nil =>
    rw [run, ← released]
    rfl
  | cons op pending =>
    have rank := high op List.mem_cons_self
    exact absurd op.precedence_lt_three (Nat.not_lt.mpr rank)

/-- One stretch adds its output after another one for which no operator waits any longer. -/
theorem Adds.append (first : state.Adds left leftOutput 3)
    (second : (⟨leftOutput.reverse ++ state.written, state.waiting, state.enclosing⟩ :
      Arrangement).Adds right rightOutput 3) :
    state.Adds (left ++ right) (leftOutput ++ rightOutput) 3 := by
  refine ⟨[], (leftOutput ++ rightOutput).reverse ++ state.written, ?_, by simp, rfl⟩
  rw [readAll_append_of_ok first.settled, second.settled]
  simp

end Arrangement

variable {stretch : Stretch} {tokens output : List Token}

/-- A stretch adds what is written for it, as long as only operators of lower rank wait. -/
theorem adds_of_arranged (arranged : Arranged stretch tokens output) {state : Arrangement}
    (low : ∀ op ∈ state.waiting, op.precedence < stretch.rank) :
    state.Adds tokens output stretch.rank := by
  -- The state is general: what follows an operator is read with this operator waiting.
  induction arranged generalizing state with
  | number text value => exact Arrangement.adds_number
  | group _ ih => exact (ih (by simp)).group
  | nothing => exact Arrangement.adds_nil
  | next _ _ ihBefore ihLast =>
    exact (ihBefore fun op _ => op.precedence_lt_three).append
      (ihLast fun op _ => op.precedence_lt_three)
  | product _ ih => exact (ih fun op _ => op.precedence_lt_three).mono (by decide)
  | higher op rank _ _ ihLeft ihRight =>
    have added := (ihLeft low).operator op (by rw [rank]; exact low)
      (ihRight fun op _ => op.precedence_lt_three) (Nat.le_of_eq rank)
      (Nat.le_of_lt op.precedence_lt_three)
    rw [rank] at added
    exact added
  | sum _ ih =>
    exact (ih fun op member => Nat.lt_succ_of_lt (low op member)).mono (by decide)
  | lower op rank _ _ ihLeft ihRight =>
    have lower : ∀ earlier ∈ op :: state.waiting, earlier.precedence < 2 := by
      intro earlier member
      rcases List.mem_cons.mp member with rfl | member
      · rw [rank]
        decide
      · exact Nat.lt_succ_of_lt (low earlier member)
    have added := (ihLeft low).operator op (by rw [rank]; exact low) (ihRight lower)
      (Nat.le_of_eq rank) (by rw [rank]; decide)
    rw [rank] at added
    exact added

/-- The postorder of a sum is what is written for it. -/
theorem postorder_of_arranged (arranged : Arranged .sum tokens output) :
    postorder tokens = .ok output := by
  have added : Arrangement.start.Adds tokens output 1 :=
    adds_of_arranged arranged (by simp [Arrangement.start])
  obtain ⟨pending, written, run, -, released⟩ := added
  simp only [Arrangement.start, List.append_nil] at released
  rw [Arrangement.postorder_of_readAll run rfl]
  simp [Arrangement.start, released]

end Calculator
