/-!
# Halves of pairs

The code points from `0xD800` to `0xDFFF` are halves of pairs and stand for no character.  A text
that has one on its own keeps it as a character of a plane for private use.
-/

namespace DataDiagram.Text

def isSurrogate (n : Nat) : Bool := 0xD800 ≤ n && n ≤ 0xDFFF

/-- How far the characters are away that halves of pairs are kept as. -/
def surrogateOffset : Nat := 0xF0000

def surrogate? (c : Char) : Option Nat :=
  if surrogateOffset ≤ c.toNat && isSurrogate (c.toNat - surrogateOffset) then
    some (c.toNat - surrogateOffset)
  else none

def charOfCode (n : Nat) : Char := Char.ofNat (if isSurrogate n then n + surrogateOffset else n)

def codeOf (c : Char) : Nat := (surrogate? c).getD c.toNat

def compareChars : List Char → List Char → Ordering
  | [], [] => .eq
  | [], _ :: _ => .lt
  | _ :: _, [] => .gt
  | c :: cs, d :: ds => (compare (codeOf c) (codeOf d)).then (compareChars cs ds)

def compareTexts (s t : String) : Ordering := compareChars s.toList t.toList

def surrogateText (n : Nat) : String := String.ofList ('\\' :: 'u' :: Nat.toDigits 16 n)

/-- What is said of a text that has halves of pairs and can therefore not be written as bytes: where
the first ones stand. -/
def surrogateRefusal? (cs : List Char) : Option String :=
  let start := (cs.takeWhile fun c => (surrogate? c).isNone).length
  match (cs.drop start).takeWhile fun c => (surrogate? c).isSome with
  | [] => none
  | [c] =>
    some (s!"'utf-8' codec can't encode character '{surrogateText (codeOf c)}' in position " ++
      s!"{start}: surrogates not allowed")
  | run =>
    some
      (s!"'utf-8' codec can't encode characters in position {start}-{start + run.length - 1}: " ++
      "surrogates not allowed")

end DataDiagram.Text
