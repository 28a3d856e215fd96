/-!
# Blank characters

Names, titles and answers are compared without the blanks around them. Blank are the separators
and the format controls that end lines, fields or paragraphs: `isBlank` lists them. `strip` takes
them off both ends of a text.
-/

namespace Forge.Text

/-- The blank characters: tabs and line ends, the four information separators, and every space,
line and paragraph separator. -/
def isBlank (c : Char) : Bool :=
  let n := c.toNat
  (decide (0x09 ≤ n) && decide (n ≤ 0x0d)) || (decide (0x1c ≤ n) && decide (n ≤ 0x20)) ||
    n == 0x85 || n == 0xa0 || n == 0x1680 || (decide (0x2000 ≤ n) && decide (n ≤ 0x200a)) ||
    n == 0x2028 || n == 0x2029 || n == 0x202f || n == 0x205f || n == 0x3000

/-- The list without the longest end on which `p` holds. -/
def dropEndWhile {α : Type} (p : α → Bool) (l : List α) : List α :=
  (l.reverse.dropWhile p).reverse

/-- The list without the longest start and the longest end on which `p` holds. -/
def trim {α : Type} (p : α → Bool) (l : List α) : List α :=
  dropEndWhile p (l.dropWhile p)

/-- The text without the blanks at both ends. -/
def strip (s : String) : String :=
  String.ofList (trim isBlank s.toList)

/-- The text without the occurrences of `c` at both ends. -/
def stripChar (c : Char) (s : String) : String :=
  String.ofList (trim (· == c) s.toList)

/-- Whether the text has nothing but blanks. -/
def allBlank (s : String) : Bool :=
  s.toList.all isBlank

end Forge.Text
