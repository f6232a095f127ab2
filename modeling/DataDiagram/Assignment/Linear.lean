import DataDiagram.Assignment.Quantity
import DataDiagram.Source.Tree
/-!
# Linear forms

A constant and coefficients of variables, as a quantity gives them.
-/

namespace DataDiagram.Assignment

/-- A constant plus variables times coefficients; no variable occurs twice. -/
structure LinearForm where
  inc : Int
  coef : List (String × Int)
  deriving DecidableEq

/-- Why a quantity is no linear form. -/
inductive LinearError
  | wrongOperation (text : String)
  | tooManyFactors (text : String)
  | wrongFactors (text : String)
  /-- A term is neither a number, a variable nor a product. -/
  | wrongTerm (text : String)
  /-- What is wrong cannot be written. -/
  | unwritten (e : Raised)
  deriving DecidableEq

namespace LinearError

def message : LinearError → String
  | wrongOperation text => s!"invalid expression {text} (wrong op)"
  | tooManyFactors text => s!"invalid expression '{text}' (too many factors)"
  | wrongFactors text => s!"invalid expression '{text}' (wrong factors)"
  | wrongTerm text => s!"invalid expression '{text}' (wrong term)"
  | unwritten e => e.message

def kind : LinearError → ErrorKind
  | unwritten e => e.kind
  | wrongOperation _ | tooManyFactors _ | wrongFactors _ | wrongTerm _ => .value

def shown (error : String → LinearError) : Except Raised String → LinearError
  | .ok text => error text
  | .error e => unwritten e

end LinearError

namespace LinearForm

def ofProduct (factors : List Quantity) (text : Except Raised String) :
    Except LinearError (String × Int) :=
  match factors with
  | [.integer k, .symbol x] | [.symbol x, .integer k] => .ok (x, k)
  | [_, _] => .error (.shown .wrongFactors text)
  | _ => .error (.shown .tooManyFactors text)

def addTerm (form : LinearForm) (term : Quantity) : Except LinearError LinearForm :=
  match term with
  | .integer k => .ok { form with inc := form.inc + k }
  | .symbol x => .ok { form with coef := Names.put form.coef x 1 }
  | .product factors text => do
    let (x, k) ← ofProduct factors text
    return { form with coef := Names.put form.coef x k }
  | .sum _ text | .other text => .error (.shown .wrongTerm text)

def ofQuantity (q : Quantity) : Except LinearError LinearForm :=
  match q with
  | .integer k => .ok ⟨k, []⟩
  | .symbol x => .ok ⟨0, [(x, 1)]⟩
  | .product factors text => do
    let (x, k) ← ofProduct factors text
    return ⟨0, [(x, k)]⟩
  | .sum terms _ => terms.foldlM addTerm ⟨0, []⟩
  | .other text => .error (.shown .wrongOperation text)

def coefficient (form : LinearForm) (name : String) : Int := (form.coef.lookup name).getD 0

def addVariable (form : LinearForm) (name : String) : LinearForm :=
  { form with coef := Names.put form.coef name (1 + form.coefficient name) }

end LinearForm

end DataDiagram.Assignment
