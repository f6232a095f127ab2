import DataDiagram.Static.Scope
/-!
# Expressions that cannot be evaluated at all

Some texts are well formed and still no expression that could be evaluated: they use what only has a
meaning elsewhere, or give a value to a name that cannot have one.  A constant that stands in for a
loop variable must be one that could have been written.
-/

namespace DataDiagram.Static

open Source (Expr Stmt Params Alias)

/-- Why an expression cannot be evaluated at all. -/
inductive Unusable
  | illFormed
  | constant (kind : String)
  deriving DecidableEq

mutual

def unwritable? : Datum → Option String
  | .none | .ellipsis | .bool _ | .int _ | .float _ | .complex _ | .str _ | .bytes _ => none
  | .tuple items => unwritableAmong? items
  | .list _ => some "list"
  | .set _ => some "set"
  | .dict _ => some "dict"
  | .range .. => some "range"
  | .record cls _ => some cls
  | .named kind _ => some kind

/-- The kind of the first part of some constants that cannot be written. -/
def unwritableAmong? : List Datum → Option String
  | [] => none
  | d :: rest =>
    match unwritable? d with
    | some kind => some kind
    | none => unwritableAmong? rest

end

def unwritableConstant : Expr → List String
  | .constant _ d => (unwritable? d).toList
  | _ => []

def hasRepeated {α : Type} [BEq α] : List α → Bool
  | [] => false
  | x :: rest => rest.contains x || hasRepeated rest

def isFixed (name : String) : Bool := name == "__debug__"

def namedTargets : Expr → List String
  | .named _ (.name _ id _) _ => [id]
  | _ => []

def misnames (parts : List Expr) (clauses : List (Bool × Expr × Expr × List Expr)) : Bool :=
  let targets := clauseTargets clauses
  let inside := Expr.collectAll namedTargets parts ++
    clauses.flatMap fun c => Expr.collectAll namedTargets c.2.2.2
  let through := clauses.flatMap fun c => c.2.2.1.collect namedTargets
  !through.isEmpty || inside.any targets.contains

def illFormedAnywhere : Expr → List Unit
  | .name _ id u => if u != .load && isFixed id then [()] else []
  | .field _ _ attr u => if u != .load && isFixed attr then [()] else []
  | .call _ _ _ keywords =>
    let names := keywords.filterMap Prod.fst
    if hasRepeated names || names.any isFixed then [()] else []
  | .lambda _ params .. =>
    let names := paramNames params
    if hasRepeated names || names.any isFixed then [()] else []
  | .comprehension _ _ parts clauses =>
    if clauses.any Prod.fst || misnames parts clauses then [()] else []
  | .await .. => [()]
  | _ => []

def illFormed : Expr → List Unit
  | .yield .. | .yieldFrom .. => [()]
  | e => illFormedAnywhere e

def isStarred : Expr → Bool
  | .starred .. => true
  | _ => false

def checkExpr (e : Expr) : Except Unusable Unit :=
  match e.collect unwritableConstant with
  | kind :: _ => .error (.constant kind)
  | [] => if isStarred e || !(e.collect illFormed).isEmpty then .error .illFormed else .ok ()

/-! ### Functions -/

def takesTooLate : (used : List String) → List Stmt → Bool
  | _, [] => false
  | used, .global _ names :: rest => names.any used.contains || takesTooLate used rest
  | used, s :: rest =>
    (takenByStmt s).any used.contains || takesTooLate (used ++ s.collect Expr.usedNames) rest

/-- Succeeds if a function can be defined: no two parameters have one name, and what stands outside
of its body is well formed there. -/
def checkFunction (name : String) (params : Params) (body : List Stmt) (returns : Option Expr) :
    Except Unusable Unit :=
  let names := params.all.map Source.Param.name
  let around := params.collect illFormed ++ Expr.collectOption illFormed returns
  let inside := Stmt.collectAll illFormedAnywhere body
  if hasRepeated names || (name :: names).any isFixed || !around.isEmpty || !inside.isEmpty ||
      takesTooLate names body then .error .illFormed
  else .ok ()

/-! ### Classes -/

def checkClass (name : String) (bases : List Expr) (body : List Stmt) : Except Unusable Unit :=
  let found := Expr.collectAll illFormed bases ++ Stmt.collectAll illFormed body
  if isFixed name || !found.isEmpty then .error .illFormed else .ok ()

/-! ### Imports -/

def features : List String :=
  ["nested_scopes", "generators", "division", "absolute_import", "with_statement", "print_function",
   "unicode_literals", "barry_as_FLUFL", "generator_stop", "annotations"]

def checkImport (library : Option String) (names : List Alias) : Except Unusable Unit :=
  let bound := names.map fun a => a.rename.getD a.name
  if bound.any isFixed then .error .illFormed
  else if library == some "__future__" && !names.all (fun a => features.contains a.name) then
    .error .illFormed
  else .ok ()

end DataDiagram.Static
