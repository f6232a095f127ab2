import DataDiagram.ErrorKind
import DataDiagram.Source.Bind
/-!
# Evaluators

Parts of a text are evaluated ahead of the program: initial values, tests, what loops go through,
and definitions.  Reading knows little of how that is done.  An evaluation ends with a value or
without one; of values it is known whether they are missing, whether they are integers, and whether
they hold when they are tested, and they may be gone through.
-/

namespace DataDiagram.Reading

open Source (Expr Stmt)

/-- What stops the reading itself. -/
inductive Failure
  /-- A condition that does not hold, with a text that says so. -/
  | assertion (text : String)
  | exception (kind : ErrorKind) (message : String)
  /-- What cannot be handled like an exception: the program is asked to end. -/
  | exit (kind : ErrorKind) (message : String)

/-- How an evaluation ends. -/
inductive Evaluated (V : Type)
  | value (v : V)
  /-- An exception, and the text that shows it. -/
  | raised (text : String)
  /-- What is not an exception of the evaluated part: it cannot be evaluated at all, say. -/
  | left (f : Failure)

/-- What is met when a value is gone through: one value after the other, each with the state it
leaves. -/
inductive Walk (σ V : Type)
  | done (s : σ)
  | failed (f : Failure)
  | next (v : V) (s : σ) (more : σ → Walk σ V)

/-- How parts of a text are evaluated, with states `σ` and values `V`. -/
structure Evaluator (σ V : Type) where
  start : σ
  /-- The value of an expression among some names, where the variables of loops stand for values. -/
  evaluate : (env vars : Names V) → Expr → StateM σ (Evaluated V)
  /-- What a statement gives a name. -/
  define : (env : Names V) → Stmt → String → StateM σ (Evaluated V)
  /-- The class of records with the fields of a class. -/
  record : V → StateM σ (Except Failure V)
  truth : V → StateM σ (Except Failure Bool)
  walk : V → σ → Walk σ V
  isNone : V → Bool
  /-- Integers and truth values, as the constants that they are. -/
  constant? : V → Option Datum
  datum : σ → V → Datum
  datum_eq_none_iff : ∀ s v, datum s v = .none ↔ isNone v = true
  integral : ∀ v d, constant? v = some d → ∃ n, d.int? = some n

namespace Walk

variable {σ V : Type}

def ofList (s : σ) : List V → Walk σ V
  | [] => done s
  | v :: rest => next v s fun s => ofList s rest

/-- All values that are met, one after the other. -/
def collect : Walk σ V → StateM σ (Except Failure (List V))
  | done s => do
    set s
    return .ok []
  | failed f => return .error f
  | next v s more => do
    match ← collect (more s) with
    | .ok rest => return .ok (v :: rest)
    | .error f => return .error f

end Walk

namespace Evaluator

variable {σ V : Type} (I : Evaluator σ V)

/-- The constants that the variables of loops are replaced by in code. -/
def loopVars (vars : Names V) : Expr.LoopVars :=
  vars.map fun v => (v.1, (I.constant? v.2).getD .none)

end Evaluator

end DataDiagram.Reading
