/-!
# Lines of a text

A text is cut at every character that ends a line: line feed, carriage return (together with a
line feed that follows), vertical tabulation, form feed, the file, group and record separators, the
next-line control and the Unicode line and paragraph separators.
-/

namespace DataDiagram.Text

def endsLine (c : Char) : Bool :=
  let n := c.toNat
  (10 ≤ n && n ≤ 13) || (28 ≤ n && n ≤ 30) || n == 0x85 || n == 0x2028 || n == 0x2029

/-- The lines of a text, `current` being the reversed beginning of the line under way.  A line end
at the very end of the text starts no further line. -/
def linesFrom (current : List Char) : List Char → List (List Char)
  | [] => if current.isEmpty then [] else [current.reverse]
  | '\r' :: '\n' :: rest => current.reverse :: linesFrom [] rest
  | c :: rest =>
    if endsLine c then current.reverse :: linesFrom [] rest else linesFrom (c :: current) rest

def lines (s : List Char) : List (List Char) := linesFrom [] s

def splitLines (s : String) : List String := (lines s.toList).map String.ofList

end DataDiagram.Text
