/-!
# Lines of a text

A line ends at a line feed, a carriage return (with the line feed after it, if there is one), a
vertical tab, a form feed, a file, group or record separator, a next-line control, or a line or
paragraph separator. The end of the text ends a line only if something stands after the last end.
-/

namespace Forge.Text

/-- The characters that end a line. -/
def isLineEnd (c : Char) : Bool :=
  let n := c.toNat
  (decide (0x0a ≤ n) && decide (n ≤ 0x0d)) || (decide (0x1c ≤ n) && decide (n ≤ 0x1e)) ||
    n == 0x85 || n == 0x2028 || n == 0x2029

/-- One more character at the start of the first line. -/
def consFirst (c : Char) : List (List Char) → List (List Char)
  | [] => [[c]]
  | l :: ls => (c :: l) :: ls

/-- The lines of a text, without their ends. -/
def linesOf : List Char → List (List Char)
  | [] => []
  | '\r' :: '\n' :: r => [] :: linesOf r
  | c :: r => if isLineEnd c then [] :: linesOf r else consFirst c (linesOf r)

/-- The lines of a text, without their ends. -/
def lines (s : String) : List String :=
  (linesOf s.toList).map String.ofList

/-- The text with every carriage return, alone or before a line feed, made one line feed. -/
def unifyLineEnds : List Char → List Char
  | [] => []
  | '\r' :: '\n' :: r => '\n' :: unifyLineEnds r
  | c :: r => (if c = '\r' then '\n' else c) :: unifyLineEnds r

end Forge.Text
