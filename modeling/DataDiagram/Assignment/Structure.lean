import DataDiagram.Text.Blank
import DataDiagram.Text.Numeral
import DataDiagram.Text.CharKind
/-!
# The structure of assignment texts

An assignment text is a variable, an operator and a right side.  Variables have arbitrary names;
where one occurs in the text, it is an atom.
-/

namespace DataDiagram.Assignment

/-- An operator between a variable and a right side. -/
inductive Operator
  | assign
  | equal
  | notEqual
  | lessEqual
  | greaterEqual
  | less
  | greater
  | increase
  deriving DecidableEq

namespace Operator

def text : Operator → String
  | assign => "="
  | equal => "=="
  | notEqual => "!="
  | lessEqual => "<="
  | greaterEqual => ">="
  | less => "<"
  | greater => ">"
  | increase => "+="

def all : List Operator :=
  [assign, equal, notEqual, lessEqual, greaterEqual, less, greater, increase]

end Operator

/-- A piece of an assignment text: a variable or a character. -/
inductive Atom
  | char (c : Char)
  | name (n : String)
  deriving DecidableEq

namespace Atom

def text : Atom → String
  | char c => String.ofList [c]
  | name n => n

def joined (atoms : List Atom) : String := String.join (atoms.map text)

def isBlank : Atom → Bool
  | char c => Text.isBlank c
  | name _ => false

def isWord : Atom → Bool
  | char c => Text.isWordChar c
  | name _ => true

end Atom

/-! ### Variables in a text -/

def nameAt? (names : List String) (text : List Char) : Option String :=
  names.find? fun n => n.toList.isPrefixOf text

/-- The pieces of a text, of which the first `skip` characters belong to a name that has been read.
The first name that fits counts, wherever it stands; the empty name fits in front of every piece. -/
def atomsFrom (names : List String) : (skip : Nat) → List Char → List Atom
  | _, [] => if names.contains "" then [.name ""] else []
  | skip + 1, _ :: rest => atomsFrom names skip rest
  | 0, c :: rest =>
    let here (found : Option String) : List Atom :=
      match found with
      | some n => .name n :: atomsFrom names (n.length - 1) rest
      | none => .char c :: atomsFrom names 0 rest
    match nameAt? names (c :: rest) with
    | some "" => .name "" :: here (nameAt? (names.filter fun n => !n.isEmpty) (c :: rest))
    | found => here found

def atoms (names : List String) (text : String) : List Atom := atomsFrom names 0 text.toList

/-! ### Structure -/

/-- What an assignment text consists of. -/
structure Shape where
  left : Option String
  op : Operator
  right : List Atom

def afterChars : List Char → List Atom → Option (List Atom)
  | [], rest => some rest
  | c :: cs, .char d :: rest => if c == d then afterChars cs rest else none
  | _ :: _, _ => none

def dropNewline (atoms : List Atom) : List Atom :=
  match atoms.getLast? with
  | some (.char '\n') => atoms.dropLast
  | _ => atoms

def rightSide? (op : Operator) (atoms : List Atom) : Option (List Atom) := do
  let rest ← afterChars op.text.toList atoms
  let right := dropNewline (rest.dropWhile Atom.isBlank)
  match right with
  | first :: _ => if first.isWord && !right.contains (.char '\n') then return right else none
  | [] => none

def operation? (atoms : List Atom) : Option (Operator × List Atom) :=
  Operator.all.findSome? fun op => (rightSide? op atoms).map fun right => (op, right)

def shape? (names : List String) (text : String) : Option Shape := do
  let start := (atoms names text).dropWhile Atom.isBlank
  match names, start with
  | [], start =>
    let (op, right) ← operation? start
    return ⟨none, op, right⟩
  | _, .name n :: rest =>
    let (op, right) ← operation? (rest.dropWhile Atom.isBlank)
    return ⟨some n, op, right⟩
  | _, _ => none

/-! ### Simple right sides -/

def chars? : List Atom → Option (List Char)
  | [] => some []
  | .char c :: rest => (chars? rest).map (c :: ·)
  | .name _ :: _ => none

def numeral? (right : List Atom) : Option (List Char) := do
  let cs ← chars? right
  if !cs.isEmpty && cs.all Text.isNumeral then return cs else none

end DataDiagram.Assignment
