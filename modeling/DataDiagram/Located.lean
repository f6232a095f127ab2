import DataDiagram.Datum.Arithmetic
/-!
# Located errors

An error of the language, shown with the line it occurred on and a caret under the column.
-/

namespace DataDiagram

/-- An error at a place of a source text. -/
structure Located where
  message : String
  file : String
  line : Int
  column : Int
  sourceLine : Option String
  deriving DecidableEq

namespace Located

/-- The three lines that show an error: its place, the line there, and its text after some blanks
and a caret. -/
def lines (message file line blanks sourceLine : String) : String :=
  "In '" ++ file ++ "' line " ++ line ++ "\n" ++
  "-> " ++ sourceLine ++ "\n" ++
  "   " ++ blanks ++ "^ " ++ message

/-- The three lines that show a located error.  A negative column puts the caret at the start. -/
def text (e : Located) : String :=
  lines e.message e.file (toString e.line) (String.ofList (List.replicate e.column.toNat ' '))
    (e.sourceLine.getD "None")

def shown (message file line column sourceLine : Datum) : Except DatumError String := do
  let blanks ← (Datum.str " ").repeatBy column
  return lines message.text file.text line.text blanks.text sourceLine.text

end Located

end DataDiagram
