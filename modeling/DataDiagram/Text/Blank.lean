import DataDiagram.Text.CharTable
/-!
# Blanks

The white space that may surround the parts of an assignment text: the Unicode separators and the
control characters that act as such.
-/

namespace DataDiagram.Text

def blankTable : CharTable := [
  (0x85, 0x85), (0xa0, 0xa0), (0x1680, 0x1680), (0x2000, 0x200a), (0x2028, 0x2029),
  (0x202f, 0x202f), (0x205f, 0x205f), (0x3000, 0x3000)]

/-- White space in the sense of Unicode: tabulation to carriage return, the four information
separators, the space, and the separators of `blankTable`. -/
def isBlank (c : Char) : Bool :=
  let n := c.toNat
  if n < 128 then (9 ≤ n && n ≤ 13) || (28 ≤ n && n ≤ 32) else blankTable.contains c

end DataDiagram.Text
