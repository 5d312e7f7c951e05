import Calculator.Proofs.Expression.Infix

/-!
# Only postorders have a value

A calculation that finds its operands builds trees as it goes: every value on the stack is that of
a tree, and the postorders of these trees, from the bottom of the stack to its top, are the tokens
that were carried out (`exists_trees_of_applyAll`). So the tokens that have a value are the
postorders of trees (`calculate_eq_ok_iff_tree`).
-/

namespace Calculator

namespace Expression

/-- The tokens of the trees on a stack, whose top comes first. -/
def postorders (trees : List Expression) : List Token := trees.reverse.flatMap postorder

/-- The tokens of the tree on top come last. -/
theorem postorders_cons (tree : Expression) (trees : List Expression) :
    postorders (tree :: trees) = postorders trees ++ tree.postorder := by
  simp [postorders]

end Expression

open Expression (postorders postorders_cons)

/-- An operator that finds its operands joins their trees. -/
theorem Operator.exists_trees_of_applyTo {op : Operator} {trees : List Expression}
    {values : List Float} (h : op.applyTo (trees.map Expression.value) = .ok values) :
    ∃ joined : List Expression, joined.map Expression.value = values ∧
      postorders joined = postorders trees ++ [.operator op] := by
  cases op with
  | binary operator =>
    cases trees with
    | nil => cases h
    | cons right trees =>
      cases trees with
      | nil => cases h
      | cons left rest =>
        refine ⟨.binary operator left right :: rest, ?_, ?_⟩
        · rw [List.map_cons, Expression.value_binary]
          exact Except.ok.inj h
        · simp [postorders_cons, Expression.postorder]
  | squareRoot =>
    cases trees with
    | nil => cases h
    | cons operand rest =>
      refine ⟨.squareRoot operand :: rest, Except.ok.inj h, ?_⟩
      simp [postorders_cons, Expression.postorder]

/-- A token that can be carried out adds a leaf or joins trees. -/
theorem Token.exists_trees_of_applyTo {token : Token} {trees : List Expression}
    {values : List Float} (h : token.applyTo (trees.map Expression.value) = .ok values) :
    ∃ after : List Expression, after.map Expression.value = values ∧
      postorders after = postorders trees ++ [token] := by
  cases token with
  | number text value =>
    refine ⟨.number text value :: trees, Except.ok.inj h, ?_⟩
    rw [postorders_cons]
    rfl
  | operator op => exact Operator.exists_trees_of_applyTo h
  | opening => cases h
  | closing => cases h

/-- Tokens that can be carried out are in the postorders of the trees that they leave. -/
theorem exists_trees_of_applyAll {tokens : List Token} {trees : List Expression}
    {values : List Float} (h : Token.applyAll tokens (trees.map Expression.value) = .ok values) :
    ∃ after : List Expression, after.map Expression.value = values ∧
      postorders after = postorders trees ++ tokens := by
  induction tokens generalizing trees with
  | nil => exact ⟨trees, Except.ok.inj h, (List.append_nil _).symm⟩
  | cons token tokens ih =>
    rw [Token.applyAll_cons] at h
    obtain ⟨middle, step, rest⟩ := bind_eq_ok h
    obtain ⟨between, rfl, first⟩ := Token.exists_trees_of_applyTo step
    obtain ⟨after, same, others⟩ := ih rest
    refine ⟨after, same, ?_⟩
    rw [others, first, List.append_assoc, List.singleton_append]

/-- Tokens have a value exactly if they are the postorder of a tree of this value. -/
theorem calculate_eq_ok_iff_tree {tokens : List Token} {value : Float} :
    calculate tokens = .ok value ↔
      ∃ tree : Expression, tree.postorder = tokens ∧ tree.value = value := by
  constructor
  · intro h
    have run : Token.applyAll tokens (List.map Expression.value []) = .ok [value] :=
      calculate_eq_ok_iff.mp h
    obtain ⟨after, values, written⟩ := exists_trees_of_applyAll run
    match after, values with
    | [tree], values =>
      refine ⟨tree, ?_, List.singleton_inj.mp values⟩
      simpa [postorders] using written
  · rintro ⟨tree, rfl, rfl⟩
    exact calculate_postorder tree

end Calculator
