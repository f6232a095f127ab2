import DataDiagram.Source.Lexer
import DataDiagram.Text.Blank
/-!
# Spacing of right sides

A right side is taken apart into words, strings and marks, and put together again with a blank after
each word and no blank elsewhere.  So marks that blanks divide are joined: `y * * 2` becomes
`y **2`.
-/

namespace DataDiagram.Assignment

/-- A piece of a right side. -/
inductive Piece
  | word (text : List Char)
  | string (text : List Char)
  | mark (text : List Char)
  deriving DecidableEq

/-! ### Numbers -/

def afterDigits (isDigit : Char → Bool) : List Char → List Char
  | '_' :: c :: rest => if isDigit c then afterDigits isDigit rest else '_' :: c :: rest
  | c :: rest => if isDigit c then afterDigits isDigit rest else c :: rest
  | [] => []

def afterUnit : List Char → List Char
  | 'j' :: rest | 'J' :: rest => rest
  | rest => rest

def afterExponent? : List Char → Option (List Char)
  | e :: s :: rest =>
    if e == 'e' || e == 'E' then
      if s == '+' || s == '-' then
        match rest with
        | d :: more => if d.isDigit then some (afterDigits Char.isDigit more) else none
        | [] => none
      else if s.isDigit then some (afterDigits Char.isDigit rest)
      else none
    else none
  | _ => none

def afterFraction (cs : List Char) : List Char := afterUnit ((afterExponent? cs).getD cs)

def afterBased? (isDigit : Char → Bool) (cs : List Char) : Option (List Char) :=
  let rest := afterDigits isDigit cs
  if rest.length < cs.length then some rest else none

/-- What follows an integer; a zero at its start is followed by nothing but zeros. -/
def afterInteger : List Char → List Char
  | '0' :: b :: rest =>
    let based :=
      match b.toLower with
      | 'x' => afterBased? (Source.isDigitOf 16) rest
      | 'b' => afterBased? (Source.isDigitOf 2) rest
      | 'o' => afterBased? (Source.isDigitOf 8) rest
      | _ => none
    based.getD (afterDigits (· == '0') (b :: rest))
  | cs => afterDigits Char.isDigit cs

def afterNumber? : List Char → Option (List Char)
  | '.' :: d :: rest =>
    if d.isDigit then some (afterFraction (afterDigits Char.isDigit rest)) else none
  | d :: rest =>
    if d.isDigit then
      match afterDigits Char.isDigit rest with
      | 'j' :: more | 'J' :: more => some more
      | '.' :: f :: more =>
        if f.isDigit then some (afterFraction (afterDigits Char.isDigit more))
        else some (afterFraction (f :: more))
      | ['.'] => some []
      | more =>
        match afterExponent? more with
        | some after => some (afterUnit after)
        | none => some (afterInteger (d :: rest))
    else none
  | [] => none

/-! ### Pieces -/

def afterString? (cs : List Char) : Option (Bool × Option (List Char)) := do
  let (_, quoted) ← Source.stringMode? cs
  match quoted with
  | a :: b :: c :: _ => return (a == b && b == c, (Source.scanString quoted).map Prod.snd)
  | _ => return (false, (Source.scanString quoted).map Prod.snd)

def upTo (rest cs : List Char) : List Char := cs.take (cs.length - rest.length)

def pieceAt (cs : List Char) : Option (Piece × List Char) :=
  match cs with
  | [] => none
  | '#' :: rest =>
    let after := rest.dropWhile fun c => c != '\r' && c != '\n'
    some (.mark (upTo after cs), after)
  | c :: rest =>
    match afterNumber? cs with
    | some after => some (.word (upTo after cs), after)
    | none =>
      match Source.Symbol.split? cs with
      | some (_, after) => some (.mark (upTo after cs), after)
      | none =>
        match afterString? cs with
        | some (_, some after) => some (.string (upTo after cs), after)
        | _ =>
          let word := cs.takeWhile Text.isWordChar
          let after := rest.dropWhile Text.isWordChar
          if word.isEmpty then none
          else if Text.isIdentifierStart c then some (.word word, after)
          else some (.mark word, after)

/-- Whether a text starts with a string of several lines that has no end. -/
def isUnclosed (cs : List Char) : Bool :=
  match afterString? cs with
  | some (true, none) => true
  | _ => false

def pieces (cs : List Char) : Option (List Piece) :=
  match cs with
  | [] => some []
  | c :: rest =>
    let start := cs.dropWhile Source.isGap
    if isUnclosed start then none
    else
      match pieceAt start with
      | some (piece, after) =>
        if after.length ≤ rest.length then (pieces after).map (piece :: ·) else none
      | none => (pieces rest).map (.mark [c] :: ·)
termination_by cs.length
decreasing_by all_goals (simp only [List.length_cons]; omega)

def Piece.spaced : (afterString : Bool) → List Piece → List Char
  | _, [] => []
  | _, .word cs :: rest => cs ++ ' ' :: spaced false rest
  | afterString, .string cs :: rest =>
    (if afterString then ' ' :: cs else cs) ++ spaced true rest
  | _, .mark cs :: rest => cs ++ spaced false rest

def trimmed (cs : List Char) : List Char :=
  ((cs.dropWhile Text.isBlank).reverse.dropWhile Text.isBlank).reverse

def respaced? (cs : List Char) : Option (List Char) :=
  (pieces (trimmed cs)).map (Piece.spaced false)

end DataDiagram.Assignment
