import DataDiagram.Reading.Module
import DataDiagram.Static.Check
import DataDiagram.Static.Define
/-!
# An evaluator

Static parts of a text are evaluated on a machine, as far as it knows about them: it has the
expressions of the language, functions and classes of the program, and some built-in functions and
libraries.
-/

namespace DataDiagram.Static

open Reading (Evaluated Failure Walk)
open Source (Expr Stmt)

def failure (e : StaticError) : Failure := .exception e.kind e.message

def Unusable.failure : Unusable → Failure
  | illFormed => .exception .illFormed ""
  | constant kind => .exception .type s!"got an invalid type in Constant: {kind}"

def ending : Except StaticError Value → Evaluated Value
  | .ok v => .value v
  | .error e => .raised e.message

/-- How a run ends that needs something to be usable. -/
def outcome (usable : Except Unusable Unit) (x : Run Value) : StateM Machine (Evaluated Value) :=
  match usable with
  | .error u => return .left u.failure
  | .ok () => do return ending (← x.run)

def attempt {α : Type} (x : Run α) : StateM Machine (Except Failure α) := do
  return (← x.run).mapError failure

/-- A value as plain data; only what is missing is missing as data. -/
def dataOf (m : Machine) : Value → Datum
  | .none => .none
  | v =>
    match ((Eval.datum v).run m.heap).1 with
    | .ok .none | .error _ => .named "object" "..."
    | .ok d => d

theorem dataOf_eq_none_iff (m : Machine) (v : Value) : dataOf m v = .none ↔ v matches .none := by
  unfold dataOf
  split
  · simp
  · split <;> simp_all

def constantOf? : Value → Option Datum
  | .int _ n => some (.int n)
  | .bool b => some (.bool b)
  | _ => none

theorem integral_constantOf? (v : Value) (d : Datum) (h : constantOf? v = some d) :
    ∃ n, d.int? = some n := by
  unfold constantOf? at h
  split at h
  · cases h
    exact ⟨_, rfl⟩
  · cases h
    exact ⟨_, rfl⟩
  · cases h

def evaluateBound (env vars : Names Value) (e : Expr) : StateM Machine (Evaluated Value) := do
  let m ← get
  let e := e.bind (vars.map fun v => (v.1, dataOf m v.2))
  outcome (checkExpr e) (evaluate env e)

def defineName (env : Names Value) (s : Stmt) (name : String) : StateM Machine (Evaluated Value) :=
  match s with
  | .function _ own params body _ returns =>
    outcome (checkFunction own params body returns) (defineFunction env own params body returns)
  | .cls _ own bases _ body decorators =>
    outcome (checkClass own bases body) (defineClass env own bases body decorators)
  | .imports _ names => outcome (.ok ()) (do imported (← importLibraries names) name : Eval Value)
  | .importsFrom _ library names level =>
    outcome (checkImport library names)
      (do imported (← importMembers library level names) name : Eval Value)
  | _ => outcome (.error .illFormed) (Run.ofEval (imported [] name))

def walk (v : Value) (m : Machine) : Walk Machine Value :=
  match (Run.ofEval (Eval.itemList v)).run m with
  | (.ok items, m) => .ofList m items
  | (.error e, _) => .failed (failure e)

def evaluator : Reading.Evaluator Machine Value where
  start := .empty
  evaluate := evaluateBound
  define := defineName
  record v := attempt (Run.ofEval (dataclass v))
  truth v := attempt (Run.ofEval (Eval.truth v))
  walk := walk
  isNone v := v matches .none
  constant? := constantOf?
  datum := dataOf
  datum_eq_none_iff := dataOf_eq_none_iff
  integral := integral_constantOf?

end DataDiagram.Static

namespace DataDiagram.Module

/-- Reads a module from its text. -/
def ofText (text : String) : Except Reading.ReadError Module := read Static.evaluator text

end DataDiagram.Module
