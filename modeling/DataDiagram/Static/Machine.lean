import DataDiagram.Static.Value
/-!
# Machines

The state of evaluations.  Names, and what functions do, are kept apart from the values that names
have: an evaluation that only deals with values cannot look at names.
-/

namespace DataDiagram.Static

/-- A place where names are kept: those of a function, or those of a comprehension. -/
structure Frame where
  addr : Nat
  own : List String
  isComprehension : Bool

/-- What a function does. -/
inductive Body
  | block (stmts : List Source.Stmt)
  | result (e : Source.Expr)

/-- How a function of the program is called. -/
structure Closure where
  params : Source.ParamNames
  defaults : List (String × Value)
  body : Body
  localNames : List String
  unit : Nat
  globals : Nat
  frames : List Frame
  symbolic : Bool

/-- The state of evaluations. -/
structure Machine where
  heap : Heap
  scopes : Array (List (String × Value))
  closures : Array Closure
  nextUnit : Nat

namespace Machine

def empty : Machine := ⟨.empty, #[], #[], 1⟩

def namesAt (m : Machine) (addr : Nat) : List (String × Value) := m.scopes[addr]?.getD []

end Machine

abbrev Run := ExceptT StaticError (StateM Machine)

namespace Run

def ofEval {α : Type} (x : Eval α) : Run α := ExceptT.mk fun m =>
  let (outcome, heap) := x.run.run m.heap
  (outcome, { m with heap })

theorem run_ofEval {α : Type} (x : Eval α) (m : Machine) :
    (ofEval x).run m = ((x.run m.heap).1, { m with heap := (x.run m.heap).2 }) := rfl

/-! ### Names -/

def newScope (names : List (String × Value)) : Run Nat := do
  let m ← get
  set { m with scopes := m.scopes.push names }
  return m.scopes.size

def namesAt (addr : Nat) : Run (List (String × Value)) := do
  return (← get).namesAt addr

def putName (addr : Nat) (id : String) (v : Value) : Run Unit :=
  modify fun m => { m with scopes := m.scopes.modify addr fun names => Names.put names id v }

/-! ### Functions -/

def newClosure (c : Closure) : Run Nat := do
  let m ← get
  set { m with closures := m.closures.push c }
  return m.closures.size

def newFunction (name : String) (c : Closure) : Run Value := do
  let code ← newClosure c
  return .function (← ofEval (Eval.alloc (.function ⟨name, code, []⟩)))

def closureAt? (code : Nat) : Run (Option Closure) := do return (← get).closures[code]?

def newUnit : Run Nat := do
  let m ← get
  set { m with nextUnit := m.nextUnit + 1 }
  return m.nextUnit

instance : MonadLift Eval Run := ⟨ofEval⟩

end Run

end DataDiagram.Static
