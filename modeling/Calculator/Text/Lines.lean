/-!
# Lines of a text

A line goes up to its line feed, which belongs to it. What follows the last line feed is a line of
its own if there is anything left, so a text is always the text of its lines.
-/

namespace Calculator.Text

/-- The lines of characters. -/
def linesOf : List Char → List String
  | [] => []
  | c :: rest =>
    if c = '\n' then "\n" :: linesOf rest
    else
      match linesOf rest with
      | [] => [String.singleton c]
      | line :: lines => (String.singleton c ++ line) :: lines

/-- The lines of a text, with their line feeds. -/
def lines (text : String) : List String := linesOf text.toList

end Calculator.Text
