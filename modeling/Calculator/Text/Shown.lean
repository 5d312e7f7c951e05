import Calculator.Text.Hidden

/-!
# Quoted text for messages

A text inside a message is set between double quotes. Quotes, backslashes and the common
controls are escaped with a backslash, other characters that cannot be shown are written by
their number in braces, and all the rest stands as it is.
-/

namespace Calculator.Text

/-- A character inside the quotes. -/
def showChar (c : Char) : List Char :=
  match c with
  | '\x00' => ['\\', '0']
  | '\t' => ['\\', 't']
  | '\n' => ['\\', 'n']
  | '\r' => ['\\', 'r']
  | '"' => ['\\', '"']
  | '\\' => ['\\', '\\']
  | c =>
    if isHidden c then ['\\', 'u', '\x7b'] ++ Nat.toDigits 16 c.toNat ++ ['\x7d'] else [c]

/-- A text between quotes. -/
def quoted (text : List Char) : List Char := '"' :: text.flatMap showChar ++ ['"']

end Calculator.Text
