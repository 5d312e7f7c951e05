import Calculator.Expression.Places
import Calculator.Proofs.Expression.Balance
import Calculator.Proofs.Expression.Stretch

/-!
# Nothing is lost on the way to postorder

What is written for a stretch consists of its tokens, the parentheses apart: those of each part
stay together, and only an operator moves, past the part on its right (`Reordered.waits`). So every
token of an expression is written once, numbers stay in their order, and an operator is written
after all numbers before it (`reordered_of_arranged`).
-/

namespace Calculator

variable {stretch : Stretch} {tokens output left leftOutput right rightOutput : List Token}
  {first : Nat}

namespace Token

/-- Places are counted on from one part to the next. -/
theorem placed_append (first : Nat) (left right : List Token) :
    placed first (left ++ right) = placed first left ++ placed (first + left.length) right := by
  rw [placed, List.zipIdx_append, List.filter_append]
  rfl

/-- A first parenthesis has no place. -/
theorem placed_cons_parenthesis {token : Token} (parenthesis : token.isParenthesis = true) :
    placed first (token :: tokens) = placed (first + 1) tokens := by
  rw [placed, List.zipIdx_cons, List.filter_cons_of_neg (by simp [parenthesis])]
  rfl

/-- Any other first token has the first place. -/
theorem placed_cons {token : Token} (plain : token.isParenthesis = false) :
    placed first (token :: tokens) = (token, first) :: placed (first + 1) tokens := by
  rw [placed, List.zipIdx_cons, List.filter_cons_of_pos (by simp [plain])]
  rfl

/-- Tokens have places from the first one on, as many as there are tokens. -/
theorem place_bounds {token : Token × Nat} (h : token ∈ placed first tokens) :
    first ≤ token.2 ∧ token.2 < first + tokens.length := by
  have member := List.mem_of_mem_filter h
  exact ⟨List.le_snd_of_mem_zipIdx member, List.snd_lt_add_of_mem_zipIdx member⟩

/-- Tokens stand in the order of their places. -/
theorem pairwise_placed (first : Nat) (tokens : List Token) :
    (placed first tokens).Pairwise fun earlier later => earlier.2 < later.2 := by
  have places : ((tokens.zipIdx first).map Prod.snd).Pairwise fun earlier later =>
      earlier < later := by
    rw [List.zipIdx_map_snd]
    exact List.pairwise_lt_range' 1
  exact (List.pairwise_map.mp places).filter _

/-- An operator is no parenthesis. -/
theorem isParenthesis_operator (op : Operator) : (operator op).isParenthesis = false := by
  cases op <;> rfl

/-- An operator is no number. -/
theorem kind_operator_ne_number (op : Operator) : (operator op).kind ≠ .number := by
  cases op <;> nofun

end Token

/-! ## Parts of an expression -/

namespace Reordered

/-- A number is written as it stands. -/
theorem number (text : String) (value : Float) :
    Reordered first [.number text value] [.number text value] :=
  ⟨[(.number text value, first)], rfl, .refl _, List.pairwise_singleton _ _⟩

/-- No token has nothing to write. -/
theorem nothing : Reordered first [] [] := ⟨[], rfl, .refl _, .nil⟩

/-- Parentheses are not written. -/
theorem group (inner : Reordered (first + 1) tokens output) :
    Reordered first (.opening :: tokens ++ [.closing]) output := by
  obtain ⟨written, same, perm, ordered⟩ := inner
  refine ⟨written, same, ?_, ordered⟩
  have closing : ∀ place, Token.placed place [.closing] = [] := fun _ => rfl
  rw [List.cons_append, Token.placed_cons_parenthesis rfl, Token.placed_append, closing,
    List.append_nil]
  exact perm

/-- Parts that are written one after the other stood so. -/
theorem append (before : Reordered first left leftOutput)
    (after : Reordered (first + left.length) right rightOutput) :
    Reordered first (left ++ right) (leftOutput ++ rightOutput) := by
  obtain ⟨written, rfl, perm, ordered⟩ := before
  obtain ⟨others, rfl, permOthers, orderedOthers⟩ := after
  refine ⟨written ++ others, List.map_append, ?_, ?_⟩
  · rw [Token.placed_append]
    exact perm.append permOthers
  · refine List.pairwise_append.mpr
      ⟨ordered, orderedOthers, fun earlier inside later beyond _ => ?_⟩
    have low := Token.place_bounds (perm.mem_iff.mp inside)
    have high := Token.place_bounds (permOthers.mem_iff.mp beyond)
    exact Nat.lt_of_lt_of_le low.2 high.1

/-- An operator waits for the part on its right. -/
theorem waits (op : Operator) (after : Reordered (first + 1) right rightOutput) :
    Reordered first (.operator op :: right) (rightOutput ++ [.operator op]) := by
  obtain ⟨written, rfl, perm, ordered⟩ := after
  refine ⟨written ++ [(.operator op, first)], List.map_append, ?_, ?_⟩
  · rw [Token.placed_cons (Token.isParenthesis_operator op)]
    exact (perm.append_right _).trans (List.perm_append_singleton _ _)
  · refine List.pairwise_append.mpr ⟨ordered, List.pairwise_singleton _ _, ?_⟩
    intro earlier _ last member isNumber
    obtain rfl := List.mem_singleton.mp member
    exact absurd isNumber (Token.kind_operator_ne_number op)

/-- An operator is written after the parts on both its sides. -/
theorem operator (op : Operator) (before : Reordered first left leftOutput)
    (after : Reordered (first + left.length + 1) right rightOutput) :
    Reordered first (left ++ .operator op :: right)
      (leftOutput ++ rightOutput ++ [.operator op]) := by
  rw [List.append_assoc]
  exact before.append (after.waits op)

end Reordered

/-- What is written for a stretch consists of its tokens, and whatever is written before a number
stood before it. -/
theorem reordered_of_arranged (arranged : Arranged stretch tokens output) (first : Nat) :
    Reordered first tokens output := by
  -- The first place is general: it is where a part of the stretch starts.
  induction arranged generalizing first with
  | number text value => exact .number text value
  | group _ ih => exact (ih (first + 1)).group
  | nothing => exact .nothing
  | next _ _ ihBefore ihLast => exact (ihBefore first).append (ihLast _)
  | product _ ih => exact ih first
  | higher op _ _ _ ihLeft ihRight => exact (ihLeft first).operator op (ihRight _)
  | sum _ ih => exact ih first
  | lower op _ _ _ ihLeft ihRight => exact (ihLeft first).operator op (ihRight _)

/-- Whether the token at a place is a number. -/
def Token.isNumberAt (placed : Token × Nat) : Bool := placed.1.kind = .number

/-- Numbers stay in their order, with their texts and values: none of them was overtaken by another
one. -/
theorem numbers_of_reordered (reordered : Reordered first tokens output) :
    output.filter (·.kind = .number) = tokens.filter (·.kind = .number) := by
  obtain ⟨written, rfl, perm, ordered⟩ := reordered
  have sorted : (written.filter Token.isNumberAt).Pairwise fun earlier later => earlier.2 < later.2 :=
    List.pairwise_filter.mpr (ordered.imp fun ahead _ number => ahead (of_decide_eq_true number))
  have same : written.filter Token.isNumberAt = (Token.placed first tokens).filter Token.isNumberAt :=
    List.Perm.eq_of_pairwise (fun _ _ _ _ less more => absurd less (Nat.lt_asymm more)) sorted
      ((Token.pairwise_placed first tokens).filter _) (perm.filter _)
  have numbers : (Token.placed first tokens).filter Token.isNumberAt =
      (tokens.zipIdx first).filter Token.isNumberAt := by
    rw [Token.placed, List.filter_filter]
    refine List.filter_congr fun token _ => ?_
    cases kind : token.1.kind <;> simp [Token.isNumberAt, Token.isParenthesis, kind]
  calc (written.map Prod.fst).filter (·.kind = .number)
      = (written.filter Token.isNumberAt).map Prod.fst := List.filter_map
    _ = ((tokens.zipIdx first).filter Token.isNumberAt).map Prod.fst := by rw [same, numbers]
    _ = tokens.filter (·.kind = .number) := by
      rw [← List.zipIdx_map_fst first tokens, List.filter_map, List.zipIdx_map_fst]
      rfl

/-- Tokens have a postorder exactly if their parentheses are balanced, and are refused for these
otherwise. The postorder has no parenthesis and consists of all other tokens; numbers stay in their
order, and an operator is written after all numbers that stood before it. -/
theorem postorder_keeps_tokens (tokens : List Token) :
    ((∃ output, postorder tokens = .ok output) ↔ Balanced tokens) ∧
    (¬ Balanced tokens → postorder tokens = .error .mismatchedParenthesis) ∧
    ∀ output, postorder tokens = .ok output →
      (∀ token ∈ output, token.isParenthesis = false) ∧
      output.Perm (tokens.filter (!·.isParenthesis)) ∧
      output.filter (·.kind = .number) = tokens.filter (·.kind = .number) ∧
      Reordered 0 tokens output := by
  refine ⟨exists_postorder_iff, fun unbalanced => postorder_eq_error_iff.mpr ⟨rfl, unbalanced⟩, ?_⟩
  intro output ordered
  have reordered := reordered_of_arranged (arranged_of_postorder ordered) 0
  exact ⟨fun token member => isParenthesis_of_mem_postorder ordered member,
    perm_of_postorder ordered, numbers_of_reordered reordered, reordered⟩

end Calculator
