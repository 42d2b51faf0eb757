/-!
# Blank characters

* `Text.isSpace` : the white space of Unicode, with the separators of the control block.
* `Text.isBlank` : the white space that may surround a written number.
-/

namespace TurtleCanvas.Text

/-- White space beyond the control characters and the space. -/
def isWideSpace (c : Char) : Bool :=
  let n := c.toNat
  n == 0x85 || n == 0xa0 || n == 0x1680 || (0x2000 ≤ n && n ≤ 0x200a) || n == 0x2028 ||
    n == 0x2029 || n == 0x202f || n == 0x205f || n == 0x3000

/-- White space that may stand before and after a written number. -/
def isBlank (c : Char) : Bool :=
  c == ' ' || (0x09 ≤ c.toNat && c.toNat ≤ 0x0d) || isWideSpace c

/-- White space: a blank, or one of the four information separators. -/
def isSpace (c : Char) : Bool := isBlank c || (0x1c ≤ c.toNat && c.toNat ≤ 0x1f)

/-- The text without the blanks before and after it. -/
def trimBlanks (cs : List Char) : List Char :=
  ((cs.dropWhile isBlank).reverse.dropWhile isBlank).reverse

end TurtleCanvas.Text
