import Calculator.Expression.Feasibility
import Calculator.Proofs.Expression.Depth
import Calculator.Proofs.Expression.Tree

/-!
# How a calculation ends

Carrying out tokens leaves as many values as there are numbers more than binary operators
(`Token.length_of_applyAll`), so a token can be carried out exactly if this count is enough for it,
and the first one for which it is not decides the error (`Token.applyAll_eq_error_iff`). Tokens that
can all be carried out have a value if they are the postorder of a tree. There is only one such
tree, since the tokens of a postorder put it together again (`Expression.foldlM_assemble`).
-/

namespace Calculator

variable {token : Token} {tokens before : List Token} {stack : List Float} {error : EvaluationError}

/-! ## One token -/

/-- An operator keeps all the values that it takes but the last one. -/
theorem Operator.arity_eq (op : Operator) : op.arity = op.held + 1 := by
  cases op <;> rfl

namespace Token

/-- On an empty stack tokens leave as many values as the count promises. -/
theorem length_eq_remaining (h : applyAll before [] = .ok stack) :
    stack.length = remaining before := by
  have length := length_of_applyAll h
  rw [List.length_nil, Nat.zero_add] at length
  rw [remaining]
  omega

/-- A token that the count allows can be carried out. -/
theorem FeasibleAfter.exists_applyTo (feasible : token.FeasibleAfter before)
    (run : applyAll before [] = .ok stack) : ∃ values, token.applyTo stack = .ok values := by
  cases token with
  | number text value => exact ⟨value :: stack, rfl⟩
  | operator op =>
    have enough : op.arity ≤ remaining before := feasible
    rw [← length_eq_remaining run, Operator.arity_eq] at enough
    obtain ⟨values, applied, -⟩ := Operator.exists_applyTo enough
    exact ⟨values, applied⟩
  | opening => exact feasible.elim
  | closing => exact feasible.elim

/-- Any other token is refused. -/
theorem applyTo_eq_refusal (infeasible : ¬ token.FeasibleAfter before)
    (run : applyAll before [] = .ok stack) : token.applyTo stack = .error token.refusal := by
  cases token with
  | number text value => exact absurd trivial infeasible
  | operator op =>
    have few : remaining before < op.arity := Nat.lt_of_not_le infeasible
    rw [← length_eq_remaining run, Operator.arity_eq] at few
    have lacks : op.applyTo stack = .error .stackUnderflow :=
      Operator.applyTo_eq_error (Nat.le_of_lt_succ few)
    cases op <;> exact lacks
  | opening => rfl
  | closing => rfl

end Token

/-! ## All tokens -/

/-- There is nothing in the way of carrying out no token. -/
theorem feasible_nil : Feasible [] := by
  intro before token after split
  cases before <;> cases split

/-- A last token can be carried out after others that can. -/
theorem feasible_concat_iff :
    Feasible (tokens ++ [token]) ↔ Feasible tokens ∧ token.FeasibleAfter tokens := by
  constructor
  · intro feasible
    refine ⟨fun before inner after split => ?_, feasible tokens token [] rfl⟩
    refine feasible before inner (after ++ [token]) ?_
    rw [split, List.append_assoc, List.cons_append]
  · rintro ⟨feasible, last⟩ before inner after split
    rcases List.eq_nil_or_concat after with rfl | ⟨others, final, rfl⟩
    · obtain ⟨rfl, same⟩ := List.append_inj' split rfl
      obtain rfl := List.singleton_inj.mp same
      exact last
    · rw [List.concat_eq_append, ← List.cons_append, ← List.append_assoc] at split
      obtain ⟨rfl, -⟩ := List.append_inj' split rfl
      exact feasible before inner others rfl

namespace Token

/-- Tokens can all be carried out, or there is a first one that cannot. -/
theorem feasible_or_exists (tokens : List Token) :
    Feasible tokens ∨ ∃ before token after, tokens = before ++ token :: after ∧
      Feasible before ∧ ¬ token.FeasibleAfter before := by
  induction tokens using List.reverseRecOn with
  | nil => exact .inl feasible_nil
  | append_singleton tokens token ih =>
    rcases ih with feasible | ⟨before, first, after, rfl, feasible, infeasible⟩
    · by_cases last : token.FeasibleAfter tokens
      · exact .inl (feasible_concat_iff.mpr ⟨feasible, last⟩)
      · exact .inr ⟨tokens, token, [], rfl, feasible, last⟩
    · refine .inr ⟨before, first, after ++ [token], ?_, feasible, infeasible⟩
      rw [List.append_assoc, List.cons_append]

/-- Tokens that the count allows can all be carried out. -/
theorem exists_applyAll_of_feasible (feasible : Feasible tokens) :
    ∃ stack, applyAll tokens [] = .ok stack := by
  induction tokens using List.reverseRecOn with
  | nil => exact ⟨[], rfl⟩
  | append_singleton tokens token ih =>
    obtain ⟨others, last⟩ := feasible_concat_iff.mp feasible
    obtain ⟨stack, run⟩ := ih others
    obtain ⟨values, applied⟩ := last.exists_applyTo run
    refine ⟨values, ?_⟩
    rw [applyAll_append_of_ok run, applyAll_cons, applied]
    rfl

/-- The first token that cannot be carried out decides the error. -/
theorem applyAll_eq_refusal (feasible : Feasible before)
    (infeasible : ¬ token.FeasibleAfter before) (after : List Token) :
    applyAll (before ++ token :: after) [] = .error token.refusal := by
  obtain ⟨stack, run⟩ := exists_applyAll_of_feasible feasible
  rw [applyAll_append_of_ok run, applyAll_cons, applyTo_eq_refusal infeasible run]
  rfl

/-- Tokens fail at the first of them that cannot be carried out. -/
theorem applyAll_eq_error_iff :
    applyAll tokens [] = .error error ↔
      ∃ before token after, tokens = before ++ token :: after ∧ Feasible before ∧
        ¬ token.FeasibleAfter before ∧ error = token.refusal := by
  constructor
  · intro failed
    rcases feasible_or_exists tokens with feasible | ⟨before, token, after, rfl, feasible, first⟩
    · obtain ⟨stack, run⟩ := exists_applyAll_of_feasible feasible
      rw [run] at failed
      cases failed
    · rw [applyAll_eq_refusal feasible first] at failed
      exact ⟨before, token, after, rfl, feasible, first, (Except.error.inj failed).symm⟩
  · rintro ⟨before, token, after, rfl, feasible, first, rfl⟩
    exact applyAll_eq_refusal feasible first after

end Token

/-! ## Trees -/

namespace Expression

/-- Puts a token on a stack of trees: a number as a leaf, an operator above the trees that it takes
off. -/
def assemble (trees : List Expression) : Token → Option (List Expression)
  | .number text value => some (.number text value :: trees)
  | .operator (.binary op) =>
    match trees with
    | right :: left :: rest => some (.binary op left right :: rest)
    | _ => none
  | .operator .squareRoot =>
    match trees with
    | operand :: rest => some (.squareRoot operand :: rest)
    | _ => none
  | .opening | .closing => none

/-- The tokens of a postorder put its tree together again. -/
theorem foldlM_assemble (tree : Expression) (trees : List Expression) :
    tree.postorder.foldlM assemble trees = some (tree :: trees) := by
  induction tree generalizing trees with
  | number text value => rfl
  | binary op left right ihLeft ihRight =>
    rw [postorder, List.foldlM_append, List.foldlM_append, ihLeft]
    change (right.postorder.foldlM assemble (left :: trees) >>= _) = _
    rw [ihRight]
    rfl
  | squareRoot operand ih =>
    rw [postorder, List.foldlM_append, ih]
    rfl

/-- A tree is known by its postorder. -/
theorem postorder_injective : Function.Injective postorder := by
  intro tree other same
  have rebuilt := tree.foldlM_assemble []
  rw [same, other.foldlM_assemble] at rebuilt
  exact (List.singleton_inj.mp (Option.some.inj rebuilt)).symm

end Expression

/-! ## The end -/

/-- Tokens that could all be carried out have no value if they left none or several. -/
theorem resultOf_of_no_tree (run : Token.applyAll tokens [] = .ok stack)
    (noTree : ∀ tree : Expression, tree.postorder ≠ tokens) :
    resultOf stack =
      .error (if tokens = [] then .emptyResult else .malformedExpression) := by
  obtain ⟨trees, rfl, written⟩ := @exists_trees_of_applyAll tokens [] stack run
  change Expression.postorders trees = tokens at written
  match trees with
  | [] =>
    obtain rfl : [] = tokens := written
    rfl
  | [tree] => exact absurd (by simpa [Expression.postorders] using written) (noTree tree)
  | first :: second :: rest =>
    have some : tokens ≠ [] := by
      rintro rfl
      cases Except.ok.inj run
    rw [if_neg some]
    rfl

/-- Tokens have a value exactly if they are the postorder of a tree of this value, and no other tree
has this postorder. Otherwise the first token that cannot be carried out decides the error, and if
there is none, whether there is any token. -/
theorem calculate_outcome (tokens : List Token) :
    (∀ value, calculate tokens = .ok value ↔
      ∃ tree : Expression, tree.postorder = tokens ∧ tree.value = value) ∧
    (∀ tree other : Expression, tree.postorder = tokens → other.postorder = tokens →
      other = tree) ∧
    ∀ error, calculate tokens = .error error ↔
      (∃ before token after, tokens = before ++ token :: after ∧ Feasible before ∧
        ¬ token.FeasibleAfter before ∧ error = token.refusal) ∨
      (Feasible tokens ∧ (∀ tree : Expression, tree.postorder ≠ tokens) ∧
        error = if tokens = [] then .emptyResult else .malformedExpression) := by
  refine ⟨fun value => calculate_eq_ok_iff_tree, ?_, fun error => ?_⟩
  · rintro tree other rfl same
    exact Expression.postorder_injective same
  · rw [calculate_eq_applyAll, bind_eq_error_iff, Token.applyAll_eq_error_iff]
    refine or_congr_right ?_
    constructor
    · rintro ⟨stack, run, failed⟩
      have noTree : ∀ tree : Expression, tree.postorder ≠ tokens := by
        rintro tree rfl
        have value := calculate_postorder tree
        rw [calculate_eq_applyAll, run] at value
        cases failed.symm.trans value
      rw [resultOf_of_no_tree run noTree] at failed
      refine ⟨?_, noTree, (Except.error.inj failed).symm⟩
      rcases Token.feasible_or_exists tokens with
        feasible | ⟨before, token, after, rfl, first, last⟩
      · exact feasible
      · rw [Token.applyAll_eq_refusal first last] at run
        cases run
    · rintro ⟨feasible, noTree, rfl⟩
      obtain ⟨stack, run⟩ := Token.exists_applyAll_of_feasible feasible
      exact ⟨stack, run, resultOf_of_no_tree run noTree⟩

/-- Every operator takes its left operand first. An operator that lacks one is reported before a
parenthesis after it, and a parenthesis before an operator after it; two numbers are too many. -/
theorem calculate_outcome_of_each_operator :
    calculate
      [.number "1" 1, .number "9" 9, .operator .squareRoot, .operator (.binary .subtract),
        .number "4" 4, .operator (.binary .divide), .number "3" 3, .operator (.binary .multiply),
        .number "2" 2, .operator (.binary .add)] = .ok 0.5 ∧
    calculate [.number "1" 1, .operator (.binary .add), .opening] = .error .stackUnderflow ∧
    calculate [.number "1" 1, .closing, .operator (.binary .add)] = .error .malformedExpression ∧
    calculate [.number "1" 1, .number "2" 2] = .error .malformedExpression ∧
    calculate [] = .error .emptyResult := by
  have one : Feasible ([] ++ [.number "1" 1]) := feasible_concat_iff.mpr ⟨feasible_nil, trivial⟩
  have two : Feasible ([.number "1" 1] ++ [.number "2" 2]) :=
    feasible_concat_iff.mpr ⟨one, trivial⟩
  have noTree : ∀ {tokens : List Token} {error}, calculate tokens = .error error →
      ∀ tree : Expression, tree.postorder ≠ tokens := by
    rintro tokens error failed tree rfl
    cases failed.symm.trans (calculate_postorder tree)
  refine ⟨?_, ?_, ?_, ?_, ?_⟩
  · -- (1 - sqrt 9) / 4 * 3 + 2
    refine ((calculate_outcome _).1 0.5).mpr ⟨.binary .add (.binary .multiply (.binary .divide
      (.binary .subtract (.number "1" 1) (.squareRoot (.number "9" 9))) (.number "4" 4))
      (.number "3" 3)) (.number "2" 2), rfl, ?_⟩
    decide +kernel
  · exact ((calculate_outcome _).2.2 _).mpr
      (.inl ⟨[.number "1" 1], .operator (.binary .add), [.opening], rfl, one, by decide, rfl⟩)
  · exact ((calculate_outcome _).2.2 _).mpr
      (.inl ⟨[.number "1" 1], .closing, [.operator (.binary .add)], rfl, one, id, rfl⟩)
  · exact ((calculate_outcome _).2.2 _).mpr (.inr ⟨two, noTree rfl, rfl⟩)
  · exact ((calculate_outcome _).2.2 _).mpr (.inr ⟨feasible_nil, noTree rfl, rfl⟩)

end Calculator
