import Calculator.Expression.Arrangement
import Mathlib.Logic.Relation

/-!
# A pass with one stack

The operators of all levels can wait on a single stack, where an opening parenthesis marks the
bottom of its level. A pass over tokens then goes in steps that move one token each: from the
tokens that are left to what is written or to the stack, or from the stack to what is written. It
is over when no step is left, and has been successful if neither is any token.
-/

namespace Calculator

/-- Where a pass over tokens has come to. -/
structure Pass where
  /-- Tokens in postorder, the latest first. -/
  written : List Token
  /-- Operators that wait and parentheses that are open, the latest first. -/
  stack : List Token
  /-- Tokens that are left to read. -/
  unread : List Token

/-- The levels of an arrangement on a single stack. -/
def Arrangement.stack (state : Arrangement) : List Token :=
  state.waiting.map Token.operator ++
    state.enclosing.flatMap fun level => Token.opening :: level.map Token.operator

/-- An arrangement in a pass that has other tokens left to read. -/
def Arrangement.pass (state : Arrangement) (unread : List Token) : Pass :=
  ⟨state.written, state.stack, unread⟩

namespace Pass

/-- Whether an operator on top of the stack is written before any of the tokens that are left:
because no token is left, because its level is about to close, or because the next operator does
not rank above it. -/
def Yields (waiting : Operator) : List Token → Prop
  | [] | .closing :: _ => True
  | .operator op :: _ => op.precedence ≤ waiting.precedence
  | .number .. :: _ | .opening :: _ => False

/-- A pass moves one token. -/
inductive Step : Pass → Pass → Prop where
  /-- A number is written at once. -/
  | number {written stack unread : List Token} (text : String) (value : Float) :
    Step ⟨written, stack, .number text value :: unread⟩
      ⟨.number text value :: written, stack, unread⟩
  /-- An operator that waited is written. -/
  | release {written stack unread : List Token} {waiting : Operator} : Yields waiting unread →
    Step ⟨written, .operator waiting :: stack, unread⟩ ⟨.operator waiting :: written, stack, unread⟩
  /-- An operator waits, on top of operators that rank below it only. -/
  | wait {written stack unread : List Token} {op : Operator} :
    (∀ waiting, stack.head? = some (.operator waiting) → waiting.precedence < op.precedence) →
      Step ⟨written, stack, .operator op :: unread⟩ ⟨written, .operator op :: stack, unread⟩
  /-- A level is opened. -/
  | enter {written stack unread : List Token} :
    Step ⟨written, stack, .opening :: unread⟩ ⟨written, .opening :: stack, unread⟩
  /-- A level where no operator waits any longer is closed. -/
  | leave {written stack unread : List Token} :
    Step ⟨written, .opening :: stack, .closing :: unread⟩ ⟨written, stack, unread⟩

/-- A pass comes to another one after some steps, or none. -/
abbrev Reaches : Pass → Pass → Prop := Relation.ReflTransGen Step

/-- The beginning of the pass over some tokens. -/
def start (tokens : List Token) : Pass := ⟨[], [], tokens⟩

/-- No step is left. -/
def Over (pass : Pass) : Prop := ∀ next, ¬ pass.Step next

/-- What a pass that is over gives: a token that is left is a parenthesis without its partner. -/
def result : Pass → Except EvaluationError (List Token)
  | ⟨written, [], []⟩ => .ok written.reverse
  | _ => .error .mismatchedParenthesis

end Pass

end Calculator
