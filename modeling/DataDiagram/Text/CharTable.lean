/-!
# Character tables

A property of characters beyond the first 128 is kept as a table of ranges of code points.
-/

namespace DataDiagram.Text

/-- Ranges of code points, both ends included, in increasing order and disjoint. -/
abbrev CharTable := List (Nat × Nat)

namespace CharTable

/-- The ranges after the code point `next` that are given by numbers: how many code points before a
range are in none, and how many code points it has but one. -/
def ofNumbers (next : Nat) : List Nat → CharTable
  | gap :: size :: rest => (next + gap, next + gap + size) :: ofNumbers (next + gap + size + 1) rest
  | _ => []

/-- Whether the code point `n` lies in one of the ranges.  The search stops at the first range that
ends at or after `n`. -/
def hasCode (n : Nat) : CharTable → Bool
  | [] => false
  | (lo, hi) :: rest => if hi < n then hasCode n rest else decide (lo ≤ n)

def contains (t : CharTable) (c : Char) : Bool := hasCode c.toNat t

end CharTable

end DataDiagram.Text
