import Calculator.Proofs.Expression.Writing

/-!
# What is written for tokens in any order

All tokens with a postorder are a sum of operands that may stand side by side or be missing, and
their postorder is what is written for this sum (`postorder_eq_ok_iff_arranged`). That they are one
follows from the invariant of a run (`Reached`), which says what was begun at every open level: at
most one additive operator waits there, and above it at most one operator of the higher rank, each
for the stretch on its right (`Begun`).
-/

namespace Calculator

variable {stretch : Stretch} {tokens output left right leftOutput rightOutput written : List Token}
  {waiting : List Operator} {op : Operator} {token : Token}

/-! ## What was begun -/

/-- The tokens of a level so far, the operators that wait there, the latest first, and what was
written for the others: the last stretch is open on its right. -/
inductive Begun : Stretch → List Token → List Operator → List Token → Prop where
  /-- Operands, and no operator yet. -/
  | operands {tokens output : List Token} :
    Arranged .operands tokens output → Begun .product tokens [] output
  /-- An operator of the higher rank waits for the operands on its right. -/
  | higher {left leftOutput right rightOutput : List Token} {op : Operator} :
    op.precedence = 2 → Arranged .product left leftOutput → Arranged .operands right rightOutput →
      Begun .product (left ++ .operator op :: right) [op] (leftOutput ++ rightOutput)
  /-- A product was begun, and no additive operator waits. -/
  | product {tokens output : List Token} {waiting : List Operator} :
    Begun .product tokens waiting output → Begun .sum tokens waiting output
  /-- An additive operator waits for the product that was begun on its right. -/
  | lower {left leftOutput right rightOutput : List Token} {op : Operator}
    {waiting : List Operator} :
    op.precedence = 1 → Arranged .sum left leftOutput → Begun .product right waiting rightOutput →
      Begun .sum (left ++ .operator op :: right) (waiting ++ [op]) (leftOutput ++ rightOutput)

namespace Begun

/-- Nothing was read at a level that was just opened. -/
theorem nothing : Begun .sum [] [] [] := .product (.operands .nothing)

/-- What was begun is complete once the operators that wait are written. -/
theorem arranged (begun : Begun stretch tokens waiting output) :
    Arranged stretch tokens (output ++ waiting.map Token.operator) := by
  induction begun with
  | operands operands =>
    rw [List.map_nil, List.append_nil]
    exact .product operands
  | higher rank product operands => exact .higher _ rank product operands
  | product _ ih => exact .sum ih
  | lower rank sum _ ih =>
    have complete := Arranged.lower _ rank sum ih
    rw [List.map_append, List.append_assoc]
    rw [List.append_assoc, List.append_assoc] at complete
    exact complete

/-- Another operand is one more on the right of what was begun. -/
theorem operand {last lastOutput : List Token} (begun : Begun stretch tokens waiting output)
    (operand : Arranged .operand last lastOutput) :
    Begun stretch (tokens ++ last) waiting (output ++ lastOutput) := by
  induction begun with
  | operands operands => exact .operands (.next operands operand)
  | higher rank product operands =>
    rw [List.append_assoc, List.append_assoc]
    exact .higher rank product (.next operands operand)
  | product _ ih => exact .product ih
  | lower rank sum _ ih =>
    rw [List.append_assoc, List.append_assoc]
    exact .lower rank sum ih

/-- Only operators of the higher rank wait in a product, and no two of them. -/
theorem precedence_of_mem (begun : Begun .product tokens waiting output) :
    ∀ op ∈ waiting, op.precedence = 2 := by
  cases begun with
  | operands _ => simp
  | higher rank _ _ => simpa using rank

/-- An operator of the higher rank completes the product before it. -/
theorem higherOperator (begun : Begun .product tokens waiting output) (rank : op.precedence = 2) :
    Begun .product (tokens ++ [.operator op]) [op] (output ++ waiting.map Token.operator) := by
  have complete := Begun.higher rank begun.arranged .nothing
  rwa [List.append_nil] at complete

/-- An additive operator completes the sum before it. -/
theorem lowerOperator (begun : Begun .sum tokens waiting output) (rank : op.precedence = 1) :
    Begun .sum (tokens ++ [.operator op]) [op] (output ++ waiting.map Token.operator) := by
  have complete := Begun.lower rank begun.arranged (.operands .nothing)
  rwa [List.append_nil] at complete

/-- An operator completes what was begun on its left above the operators of lower rank, and waits
for what is on its right. -/
theorem operator (begun : Begun .sum tokens waiting output) (op : Operator) :
    ∃ pending base, waiting = pending ++ base ∧
      (∀ earlier ∈ pending, op.precedence ≤ earlier.precedence) ∧
      (∀ earlier ∈ base, earlier.precedence < op.precedence) ∧
      Begun .sum (tokens ++ [.operator op]) (op :: base) (output ++ pending.map Token.operator) := by
  by_cases rank : op.precedence = 1
  · refine ⟨waiting, [], (List.append_nil waiting).symm, fun earlier _ => ?_, by simp, ?_⟩
    · rw [rank]
      exact earlier.one_le_precedence
    · exact begun.lowerOperator rank
  · have two : op.precedence = 2 := by
      have := op.one_le_precedence
      have := op.precedence_lt_three
      omega
    cases begun with
    | product begun =>
      refine ⟨waiting, [], (List.append_nil waiting).symm, fun earlier member => ?_, by simp, ?_⟩
      · rw [two, begun.precedence_of_mem earlier member]
      · exact .product (begun.higherOperator two)
    | @lower left leftOutput right rightOutput additive pending low sum begun =>
      refine ⟨pending, [additive], rfl, fun earlier member => ?_, ?_, ?_⟩
      · rw [two, begun.precedence_of_mem earlier member]
      · simp [low, two]
      · rw [List.append_assoc, List.append_assoc]
        exact .lower low sum (begun.higherOperator two)

end Begun

/-- The tokens that were read so far, and the state that they led to: at every open level something
was begun. -/
inductive Reached : List Token → Arrangement → Prop where
  /-- No level is open but the first one. -/
  | level {tokens output : List Token} {waiting : List Operator} :
    Begun .sum tokens waiting output → Reached tokens ⟨output.reverse, waiting, []⟩
  /-- A parenthesis was opened, and something was begun inside. -/
  | inside {left tokens output : List Token} {waiting : List Operator} {state : Arrangement} :
    Reached left state → Begun .sum tokens waiting output →
      Reached (left ++ .opening :: tokens)
        ⟨output.reverse ++ state.written, waiting, state.waiting :: state.enclosing⟩

namespace Reached

variable {state next : Arrangement}

/-- What was begun at the current level may be replaced. -/
theorem current (reached : Reached tokens state) :
    ∃ before inner output base, tokens = before ++ inner ∧ state.written = output.reverse ++ base ∧
      Begun .sum inner state.waiting output ∧
      ∀ {others waiting written}, Begun .sum others waiting written →
        Reached (before ++ others) ⟨written.reverse ++ base, waiting, state.enclosing⟩ := by
  cases reached with
  | @level _ output waiting begun =>
    refine ⟨[], tokens, output, [], rfl, (List.append_nil _).symm, begun, fun other => ?_⟩
    rw [List.append_nil]
    exact .level other
  | @inside before inner output waiting outer reached begun =>
    refine ⟨before ++ [.opening], inner, output, outer.written, ?_, rfl, begun, fun other => ?_⟩
    · rw [List.append_assoc, List.singleton_append]
    · rw [List.append_assoc, List.singleton_append]
      exact .inside reached other

/-- An operand is written at the current level. -/
theorem operand (reached : Reached tokens state) (operand : Arranged .operand right rightOutput) :
    Reached (tokens ++ right) { state with written := rightOutput.reverse ++ state.written } := by
  obtain ⟨before, inner, output, base, rfl, written, begun, replaced⟩ := reached.current
  have after := replaced (begun.operand operand)
  rw [written, ← List.append_assoc, ← List.reverse_append, List.append_assoc]
  exact after

/-- An operator waits at the current level. -/
theorem operator (reached : Reached tokens state) (h : state.read (.operator op) = .ok next) :
    Reached (tokens ++ [.operator op]) next := by
  obtain ⟨before, inner, output, base, rfl, written, begun, replaced⟩ := reached.current
  obtain ⟨pending, low, split, high, below, after⟩ := begun.operator op
  have step := state.read_operator op pending low split high below
  obtain rfl := Except.ok.inj (step.symm.trans h)
  have released : Arrangement.release pending state.written =
      (output ++ pending.map Token.operator).reverse ++ base := by
    rw [Arrangement.release, written, List.reverse_append, List.append_assoc]
  rw [released, List.append_assoc]
  exact replaced after

/-- A closing parenthesis makes an operand of what was begun inside. -/
theorem closing (reached : Reached tokens state) (h : state.read .closing = .ok next) :
    Reached (tokens ++ [.closing]) next := by
  cases reached with
  | level begun => cases h
  | @inside before inner output waiting outer reached begun =>
    obtain rfl := Except.ok.inj h
    have after := reached.operand (.group begun.arranged)
    rw [List.reverse_append, List.append_assoc] at after
    rw [List.append_assoc]
    exact after

/-- Something was begun at every level after one more token. -/
theorem read (reached : Reached tokens state) (h : state.read token = .ok next) :
    Reached (tokens ++ [token]) next := by
  cases token with
  | number text value =>
    obtain rfl := Except.ok.inj h
    exact reached.operand (.number text value)
  | operator op => exact reached.operator h
  | opening =>
    obtain rfl := Except.ok.inj h
    exact .inside reached .nothing
  | closing => exact reached.closing h

/-- Something was begun at every level after any tokens that can be read. -/
theorem readAll (reached : Reached left state) (h : state.readAll tokens = .ok next) :
    Reached (left ++ tokens) next := by
  induction tokens generalizing left state with
  | nil =>
    obtain rfl := Except.ok.inj h
    rw [List.append_nil]
    exact reached
  | cons token tokens ih =>
    rw [Arrangement.readAll_cons] at h
    obtain ⟨middle, step, rest⟩ := bind_eq_ok h
    have others := ih (reached.read step) rest
    rwa [List.append_assoc, List.singleton_append] at others

end Reached

/-- Tokens with a postorder are a sum, and their postorder is what is written for it. -/
theorem arranged_of_postorder (h : postorder tokens = .ok output) :
    Arranged .sum tokens output := by
  obtain ⟨last, run, closed, released⟩ := Arrangement.exists_readAll_of_postorder h
  have nothing : Reached [] Arrangement.start := .level .nothing
  have reached := nothing.readAll run
  rw [List.nil_append] at reached
  cases reached with
  | @level _ written waiting begun =>
    have complete := begun.arranged
    rw [Arrangement.release, ← List.reverse_append, List.reverse_inj] at released
    rwa [released] at complete
  | inside _ _ => cases closed

/-- Tokens have a postorder exactly if they are a sum for which this postorder is written. -/
theorem postorder_eq_ok_iff_arranged :
    postorder tokens = .ok output ↔ Arranged .sum tokens output :=
  ⟨arranged_of_postorder, postorder_of_arranged⟩

end Calculator
