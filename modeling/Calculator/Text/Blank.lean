/-!
# Blank characters and pieces of text

Blank characters are those of the Unicode property White_Space, all twenty-five of them and
nothing else: neither the information separators U+001C to U+001F nor the zero width
characters belong to it. The pieces of a text are its maximal runs of characters that are not
blank, in order; no piece is empty and none contains a blank character.
-/

namespace Calculator.Text

/-- The property White_Space. -/
def isBlank (c : Char) : Bool :=
  let point := c.toNat
  (0x9 ≤ point && point ≤ 0xD) || point == 0x20 || point == 0x85 || point == 0xA0 ||
    point == 0x1680 || (0x2000 ≤ point && point ≤ 0x200A) || point == 0x2028 ||
    point == 0x2029 || point == 0x202F || point == 0x205F || point == 0x3000

/-- The pieces of a text that is read from its end: the piece that the next character may
extend, and the finished ones after it. -/
structure PieceScan where
  /-- Characters of the piece being read. -/
  current : List Char
  /-- The pieces after it. -/
  finished : List (List Char)

namespace PieceScan

/-- All pieces read so far; an empty run is none. -/
def pieces (scan : PieceScan) : List (List Char) :=
  if scan.current = [] then scan.finished else scan.current :: scan.finished

/-- Puts one character before what was read: a blank ends the current piece. -/
def extend (c : Char) (scan : PieceScan) : PieceScan :=
  if isBlank c then ⟨[], scan.pieces⟩ else ⟨c :: scan.current, scan.finished⟩

end PieceScan

/-- The pieces of a text, in order. -/
def pieces (text : List Char) : List (List Char) :=
  (text.foldr PieceScan.extend ⟨[], []⟩).pieces

end Calculator.Text
