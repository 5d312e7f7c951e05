import Calculator.Expression.Balance
import Calculator.Proofs.Expression.Arrangement
import Calculator.Proofs.Expression.Calculation

/-!
# How many values are on the stack

Whether an operator finds its operands depends on the number of values on the stack alone, and this
number is known by counting tokens (`Token.length_of_applyAll`). An operator that waits for its last
operand keeps the others on the stack (`Operator.held`). If one value more than the waiting
operators keep is there, releasing them leaves this one; if there is none, the first or a later one
of them does not find its operands.
-/

namespace Calculator

/-- The values that an operator keeps on the stack while it waits for its last operand. -/
def Operator.held : Operator → Nat
  | .binary _ => 1
  | .squareRoot => 0

/-- The values that several waiting operators keep on the stack. -/
def heldBy : List Operator → Nat
  | [] => 0
  | op :: operators => op.held + heldBy operators

/-- Operators keep what each of them keeps. -/
theorem heldBy_append (first second : List Operator) :
    heldBy (first ++ second) = heldBy first + heldBy second := by
  induction first with
  | nil => simp [heldBy]
  | cons op first ih => simp [heldBy, ih, Nat.add_assoc]

/-- An operator with more values than it keeps takes these off and leaves the others. -/
theorem Operator.exists_applyTo {op : Operator} {stack : List Float} (h : op.held < stack.length) :
    ∃ values, op.applyTo stack = .ok values ∧ values.length + op.held = stack.length := by
  cases op with
  | binary operator =>
    match stack, h with
    | right :: left :: rest, _ => exact ⟨operator.apply left right :: rest, rfl, rfl⟩
  | squareRoot =>
    match stack, h with
    | operand :: rest, _ => exact ⟨operand.sqrt :: rest, rfl, rfl⟩

/-- An operator with no more values than it keeps does not find its operands. -/
theorem Operator.applyTo_eq_error {op : Operator} {stack : List Float}
    (h : stack.length ≤ op.held) : op.applyTo stack = .error .stackUnderflow := by
  cases op with
  | binary operator =>
    match stack, h with
    | [], _ => rfl
    | [only], _ => rfl
  | squareRoot =>
    match stack, h with
    | [], _ => rfl

namespace Token

variable {token : Token} {tokens : List Token} {stack values : List Float}

/-- An operator takes one value more than it gives if it is binary, and as many if it is not. -/
theorem count_binary_operator (op : Operator) : count .binary [.operator op] = op.held := by
  cases op <;> rfl

/-- Operators are no numbers. -/
theorem count_number_operator (op : Operator) : count .number [.operator op] = 0 := by
  cases op <;> rfl

/-- A number leaves one value more, and a binary operator one fewer. -/
theorem length_of_applyTo (h : token.applyTo stack = .ok values) :
    values.length + count .binary [token] = stack.length + count .number [token] := by
  cases token with
  | number text value =>
    obtain rfl := Except.ok.inj h
    rfl
  | operator op =>
    change op.applyTo stack = .ok values at h
    have enough : op.held < stack.length := by
      refine Nat.lt_of_not_le fun few => ?_
      rw [Operator.applyTo_eq_error few] at h
      cases h
    obtain ⟨others, applied, length⟩ := Operator.exists_applyTo enough
    rw [applied] at h
    obtain rfl := Except.ok.inj h
    rw [count_binary_operator, count_number_operator]
    exact length
  | opening => cases h
  | closing => cases h

/-- Tokens leave as many values as there are numbers more than binary operators. -/
theorem length_of_applyAll (h : applyAll tokens stack = .ok values) :
    values.length + count .binary tokens = stack.length + count .number tokens := by
  induction tokens generalizing stack with
  | nil =>
    obtain rfl := Except.ok.inj h
    rfl
  | cons token tokens ih =>
    rw [applyAll_cons] at h
    obtain ⟨middle, step, rest⟩ := bind_eq_ok h
    have first := length_of_applyTo step
    have others := ih rest
    rw [← List.singleton_append, count_append, count_append]
    omega

end Token

/-! ## What was written -/

/-- Carrying out what was written, of which the latest comes first, leaves a number of values. -/
def Leaves (written : List Token) (depth : Nat) : Prop :=
  ∃ stack, Token.applyAll written.reverse [] = .ok stack ∧ stack.length = depth

/-- In what was written, of which the latest comes first, an operator lacks operands. -/
def Underflows (written : List Token) : Prop :=
  Token.applyAll written.reverse [] = .error .stackUnderflow

variable {written added : List Token} {operators : List Operator} {op : Operator} {depth : Nat}

/-- Nothing written leaves nothing. -/
theorem leaves_nil : Leaves [] 0 := ⟨[], rfl, rfl⟩

/-- A number is one value more. -/
theorem Leaves.number (h : Leaves written depth) (text : String) (value : Float) :
    Leaves (.number text value :: written) (depth + 1) := by
  obtain ⟨stack, run, length⟩ := h
  refine ⟨value :: stack, ?_, by simp [length]⟩
  rw [List.reverse_cons, Token.applyAll_append_of_ok run]
  rfl

/-- An operator takes off the values that it kept. -/
theorem Leaves.operator (h : Leaves written (depth + op.held)) (enough : 1 ≤ depth) :
    Leaves (.operator op :: written) depth := by
  obtain ⟨stack, run, length⟩ := h
  have more : op.held < stack.length := by omega
  obtain ⟨values, applied, fewer⟩ := Operator.exists_applyTo more
  refine ⟨values, ?_, by omega⟩
  rw [List.reverse_cons, Token.applyAll_append_of_ok run, Token.applyAll_cons]
  change op.applyTo stack >>= Token.applyAll [] = _
  rw [applied]
  rfl

/-- An operator without a value beside those that it kept lacks operands. -/
theorem Leaves.underflows (h : Leaves written depth) (few : depth ≤ op.held) :
    Underflows (.operator op :: written) := by
  obtain ⟨stack, run, length⟩ := h
  unfold Underflows
  rw [List.reverse_cons, Token.applyAll_append_of_ok run, Token.applyAll_cons]
  change op.applyTo stack >>= Token.applyAll [] = _
  rw [Operator.applyTo_eq_error (by omega)]
  rfl

/-- Lacking operands is final. -/
theorem Underflows.append (h : Underflows written) (added : List Token) :
    Underflows (added ++ written) := by
  unfold Underflows
  rw [List.reverse_append]
  exact Token.applyAll_append_of_error h

/-- What was released after operands were lacking changes nothing. -/
theorem Underflows.release (h : Underflows written) (operators : List Operator) :
    Underflows (Arrangement.release operators written) :=
  h.append _

/-- Waiting operators leave what they did not keep, if there is anything. -/
theorem Leaves.release (h : Leaves written (depth + heldBy operators)) (enough : 1 ≤ depth) :
    Leaves (Arrangement.release operators written) depth := by
  induction operators generalizing written with
  | nil => exact h
  | cons op operators ih =>
    rw [Arrangement.release_cons]
    have held : Leaves written (depth + heldBy operators + op.held) := by
      rw [Nat.add_assoc, Nat.add_comm (heldBy operators)]
      exact h
    exact ih (held.operator (by omega))

/-- Waiting operators lack operands when there is nothing that they did not keep. -/
theorem Leaves.underflows_release (h : Leaves written (heldBy operators))
    (nonempty : operators ≠ []) :
    Underflows (Arrangement.release operators written) := by
  induction operators generalizing written with
  | nil => exact absurd rfl nonempty
  | cons op operators ih =>
    rw [Arrangement.release_cons]
    rw [heldBy] at h
    by_cases last : heldBy operators = 0
    · have few : op.held + heldBy operators ≤ op.held := by omega
      exact (h.underflows few).release operators
    · rw [Nat.add_comm] at h
      refine ih (h.operator (by omega)) ?_
      rintro rfl
      exact last rfl

end Calculator
