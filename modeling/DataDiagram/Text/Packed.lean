/-!
# Packed tables

Tables of numbers are written as texts.  The marks of such a text are digits; ends of lines in it
mean nothing.
-/

namespace DataDiagram.Text.Packed

def marks : String :=
  "ABCDEFGHIJKLMNOPQRSTUVWXYZabcdefghijklmnopqrstuvwxyz0123456789!#$%&()*+,./:;<=>?@[]^_|~"

def values (table : String) : List Nat :=
  (table.toList.filter (· != '\n')).map marks.toList.idxOf

/-- The numbers of a table.  A value below 64 ends a number, and `high` is what stands before it. -/
def numbersFrom (high : Nat) : List Nat → List Nat
  | [] => []
  | v :: rest =>
    if v < 64 then (64 * high + v) :: numbersFrom 0 rest
      else numbersFrom (23 * high + (v - 64)) rest

end DataDiagram.Text.Packed
