import DataDiagram.Assignment.Linear
import DataDiagram.Datum
import DataDiagram.Text.Quoted
/-!
# Reading assignments

An assignment or a comparison of a variable with a number, with a variable, or with a linear form.
-/

namespace DataDiagram

namespace Assignment

/-- The right side of an assignment. -/
inductive Operand
  | int (n : Int)
  | var (name : String)
  | linear (form : LinearForm)
  deriving DecidableEq

/-- Why a text is no assignment. -/
inductive ReadError
  | wrongStructure (text : String)
  | wrongAssignment (text : String)
  | noVariable
  | badNumeral (text : String)
  | tooManyDigits (count : Nat)
  | noValue (right : String)
  /-- The value of the right side is no quantity. -/
  | notQuantity (what member : String)
  | raised (e : Raised)
  | notLinear (e : LinearError)
  deriving DecidableEq

namespace ReadError

def message : ReadError → String
  | wrongStructure text => s!"invalid expression '{text}' (wrong structure)"
  | wrongAssignment text => s!"invalid expression '{text}' (wrong assignment)"
  | noVariable => ""
  | badNumeral text =>
    "invalid literal for int() with base 10: " ++ String.ofList ((Text.quote text).toList.take 200)
  | tooManyDigits count =>
    s!"Exceeds the limit ({Datum.maxDigits} digits) for integer string conversion: " ++
      s!"value has {count} digits; use sys.set_int_max_str_digits() to increase the limit"
  | noValue right => s!"invalid expression {right}"
  | notQuantity what member => s!"{what} has no attribute '{member}'"
  | raised e => e.message
  | notLinear e => e.message

def kind : ReadError → ErrorKind
  | noVariable => .key
  | notQuantity .. => .attribute
  | raised e => e.kind
  | notLinear e => e.kind
  | wrongStructure _ | wrongAssignment _ | badNumeral _ | tooManyDigits _ | noValue _ => .value

end ReadError

end Assignment

/-- A variable, an operator and a right side. -/
structure Assignment where
  left : String
  op : Assignment.Operator
  right : Assignment.Operand
  deriving DecidableEq

namespace Assignment

def numeralValue (digits : List Char) : Except ReadError Nat :=
  let count := (digits.takeWhile fun c => (Text.decimalValue? c).isSome).length
  if Datum.maxDigits < count then .error (.tooManyDigits count)
  else
    match Text.decimalNumber? digits with
    | some n => .ok n
    | none => .error (.badNumeral (String.ofList digits))

/-- The linear form of a right side, from its evaluation. -/
def formOf (right : List Atom) : Evaluated → Except ReadError LinearForm
  | .quantity q => (LinearForm.ofQuantity q).mapError .notLinear
  | .foreign what member => .error (.notQuantity what member)
  | .failed => .error (.noValue (Atom.joined right))
  | .raised e => .error (.raised e)

/-- Variables, and what right sides have left behind. -/
structure Session (σ : Type) where
  names : List String
  state : σ

namespace Session

variable {σ : Type} (A : Algebra σ)

def start (names : List String) : Session σ := ⟨names, A.start names⟩

def linear (s : Session σ) (right : List Atom) : Except ReadError LinearForm × Session σ :=
  let (value, state) := (A.evaluate right).run s.state
  (formOf right value, { s with state })

def expression (s : Session σ) (text left : String) (op : Operator) (right : List Atom) :
    Except ReadError Assignment × Session σ :=
  match op with
  | .assign =>
    let (form, s) := s.linear A right
    (form.map fun f => ⟨left, .assign, .linear f⟩, s)
  | .increase =>
    let (form, s) := s.linear A right
    (form.map fun f => ⟨left, .assign, .linear (f.addVariable left)⟩, s)
  | _ => (.error (.wrongAssignment text), s)

def read (s : Session σ) (text : String) : Except ReadError Assignment × Session σ :=
  match shape? s.names text with
  | none => (.error (.wrongStructure text), s)
  | some ⟨none, _, _⟩ => (.error .noVariable, s)
  | some ⟨some left, op, right⟩ =>
    match numeral? right with
    | some digits => ((numeralValue digits).map fun n => ⟨left, op, .int n⟩, s)
    | none =>
      match right with
      | [.name n] => (.ok ⟨left, op, .var n⟩, s)
      | right => s.expression A text left op right

def readAll (s : Session σ) : List String → List (Except ReadError Assignment)
  | [] => []
  | text :: rest =>
    let (outcome, s) := s.read A text
    outcome :: s.readAll rest

end Session

variable {σ : Type} (A : Algebra σ)

def readAll (names texts : List String) : List (Except ReadError Assignment) :=
  (Session.start A names).readAll A texts

def read (names : List String) (text : String) : Except ReadError Assignment :=
  ((Session.start A names).read A text).1

end Assignment

end DataDiagram
