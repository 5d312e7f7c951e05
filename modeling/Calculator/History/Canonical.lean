import Calculator.History.Entry

/-!
# The canonical text of a history

Of all texts that a history may have, one is canonical: every entry and every member stands on a
line of its own, indented by four spaces a level, and a string escapes nothing but the quote, the
backslash and the characters below U+0020, by one letter where there is one. The text is given here
as it looks in a file, line by line, for a history with at least one entry.
-/

namespace Calculator.History

/-- The escapes of the characters below U+0020, in the order of their numbers. -/
def controlEscapes : List String :=
  ["\\u0000", "\\u0001", "\\u0002", "\\u0003", "\\u0004", "\\u0005", "\\u0006", "\\u0007",
    "\\b", "\\t", "\\n", "\\u000b", "\\f", "\\r", "\\u000e", "\\u000f",
    "\\u0010", "\\u0011", "\\u0012", "\\u0013", "\\u0014", "\\u0015", "\\u0016", "\\u0017",
    "\\u0018", "\\u0019", "\\u001a", "\\u001b", "\\u001c", "\\u001d", "\\u001e", "\\u001f"]

/-- A character in a string: escaped only if it has to be. -/
def canonicalChar (c : Char) : String :=
  if c = '"' then "\\\""
  else if c = '\\' then "\\\\"
  else (controlEscapes[c.toNat]?).getD (String.singleton c)

/-- A text between quotes. -/
def canonicalString (text : String) : String :=
  "\"" ++ String.join (text.toList.map canonicalChar) ++ "\""

/-- The object of an entry, on four lines. -/
def canonicalEntry (entry : Entry) : String :=
  "    \x7b\n" ++
  "        \"Expression\": " ++ canonicalString entry.expression ++ ",\n" ++
  "        \"Result\": " ++ canonicalString entry.result ++ "\n" ++
  "    \x7d"

/-- A whole history, which ends in its closing bracket. -/
def canonicalText (entries : List Entry) : String :=
  "[\n" ++ ",\n".intercalate (entries.map canonicalEntry) ++ "\n]"

end Calculator.History
