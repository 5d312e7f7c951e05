import Calculator.History.Store

/-!
# Scripts of a dialogue

A script says what to do next on a terminal and with a history, and how to go on after each
answer. It is a value of its own, so the same script can be carried out on any terminal and
any store.
-/

namespace Calculator

open History (Entry)

/-- What to do, ending in a value. -/
inductive Script (α : Type) where
  /-- Nothing is left to do. -/
  | done (value : α)
  /-- Write a text. -/
  | write (text : String) (next : Script α)
  /-- Flush what was written. -/
  | flush (next : Script α)
  /-- Read a line with its line feed; there is none at the end of the input. -/
  | readLine (next : Option String → Script α)
  /-- Add an entry to the history. -/
  | append (entry : Entry) (next : Except History.Error Unit → Script α)
  /-- Read the history. -/
  | readAll (next : Except History.Error (List Entry) → Script α)
  /-- Report something to the log. -/
  | note (notice : Notice) (next : Script α)

namespace Script

/-- Goes on with another script after a script has ended. -/
def andThen {α β : Type} (script : Script α) (following : α → Script β) : Script β :=
  match script with
  | .done value => following value
  | .write text next => .write text (next.andThen following)
  | .flush next => .flush (next.andThen following)
  | .readLine next => .readLine fun line => (next line).andThen following
  | .append entry next => .append entry fun result => (next result).andThen following
  | .readAll next => .readAll fun result => (next result).andThen following
  | .note notice next => .note notice (next.andThen following)

instance : Monad Script where
  pure := .done
  bind := andThen

end Script

end Calculator
