import DataDiagram.Source.Walk
import DataDiagram.Static.Algebra
import DataDiagram.Static.Library
import DataDiagram.Static.Machine
/-!
# Scopes

Where names are looked up: first among those of the functions and comprehensions around, then among
those that are seen from everywhere.
-/

namespace DataDiagram.Static

open Source (Expr Stmt)

/-- Where names are looked up. -/
structure Scope where
  unit : Nat
  globals : Nat
  outer : Option Nat
  /-- The names of functions and comprehensions around, innermost first. -/
  frames : List Frame
  symbolic : Bool

def Closure.scope (c : Closure) : Scope := ⟨c.unit, c.globals, none, c.frames, c.symbolic⟩

namespace Scope

def lookupGlobal (sc : Scope) (id : String) : Run Value := do
  match (← Run.namesAt sc.globals).lookup id with
  | some v => return v
  | none =>
    match if sc.symbolic then Algebra.named? id else none with
    | some v => return v
    | none =>
      match Library.predefined? id with
      | some v => return v
      | none => throw (.unbound id)

def lookupOutside (sc : Scope) (id : String) : Run Value := do
  match sc.outer with
  | some addr =>
    match (← Run.namesAt addr).lookup id with
    | some v => return v
    | none => sc.lookupGlobal id
  | none => sc.lookupGlobal id

/-- The value of a name in the first of some frames that has it, or `otherwise`. -/
def lookupFrames (id : String) (otherwise : Run Value) : (inner : Bool) → List Frame → Run Value
  | _, [] => otherwise
  | inner, f :: rest => do
    if f.own.contains id then
      match (← Run.namesAt f.addr).lookup id with
      | some v => return v
      | none => throw (if inner then .unboundLocal id else .unboundFree id)
    else lookupFrames id otherwise false rest

def lookup (sc : Scope) (id : String) : Run Value :=
  match sc.frames with
  | [] => sc.lookupOutside id
  | frames => lookupFrames id (sc.lookupGlobal id) true frames

def assignOutside (sc : Scope) (id : String) (v : Value) : Run Unit :=
  Run.putName (sc.outer.getD sc.globals) id v

def assign (sc : Scope) (id : String) (v : Value) : Run Unit :=
  match sc.frames with
  | [] => sc.assignOutside id v
  | f :: _ => Run.putName (if f.own.contains id then f.addr else sc.globals) id v

def assignNamed (sc : Scope) (id : String) (v : Value) : Run Unit :=
  match sc.frames, sc.frames.find? fun f => !f.isComprehension with
  | [], _ => sc.assignOutside id v
  | _, some f => Run.putName (if f.own.contains id then f.addr else sc.globals) id v
  | _, none => Run.putName sc.globals id v

def inside (sc : Scope) (own : List String) (values : List (String × Value))
    (isComprehension : Bool) : Run Scope := do
  let addr ← Run.newScope values
  return { sc with frames := ⟨addr, own, isComprehension⟩ :: sc.frames }

end Scope

/-! ### Names of functions -/

mutual

def boundNames : Expr → List String
  | .constant .. | .yield _ none => []
  | .name _ id u => if u == .load then [] else [id]
  | .unary _ _ a | .field _ a _ _ | .starred _ a _ | .await _ a | .yield _ (some a)
  | .yieldFrom _ a => boundNames a
  | .binary _ _ a b | .subscript _ a b _ | .named _ a b => boundNames a ++ boundNames b
  | .bool _ _ es | .tuple _ es _ | .list _ es _ | .set _ es | .joined _ es => boundNamesAll es
  | .compare _ a _ rights => boundNames a ++ boundNamesAll rights
  | .call _ f args keywords => boundNames f ++ boundNamesAll args ++ boundNamesKeyed keywords
  | .slice _ a b c => boundNamesOption a ++ boundNamesOption b ++ boundNamesOption c
  | .conditional _ t a b => boundNames t ++ boundNames a ++ boundNames b
  | .lambda _ _ keywordDefaults defaults _ =>
    boundNamesOptions keywordDefaults ++ boundNamesAll defaults
  | .dict _ keys values => boundNamesOptions keys ++ boundNamesAll values
  | .comprehension _ _ parts clauses => boundNamesAll parts ++ boundNamesClauses clauses
  | .formatted _ a _ layout => boundNames a ++ boundNamesOption layout

def boundNamesAll : List Expr → List String
  | [] => []
  | e :: rest => boundNames e ++ boundNamesAll rest

def boundNamesKeyed : List (Option String × Expr) → List String
  | [] => []
  | (_, e) :: rest => boundNames e ++ boundNamesKeyed rest

def boundNamesOption : Option Expr → List String
  | none => []
  | some e => boundNames e

def boundNamesOptions : List (Option Expr) → List String
  | [] => []
  | e :: rest => boundNamesOption e ++ boundNamesOptions rest

def boundNamesClauses : List (Bool × Expr × Expr × List Expr) → List String
  | [] => []
  | (_, _, iter, conditions) :: rest =>
    boundNames iter ++ boundNamesAll conditions ++ boundNamesClauses rest

end

def clauseTargets (clauses : List (Bool × Expr × Expr × List Expr)) : List String :=
  clauses.flatMap fun c => boundNames c.2.1

mutual

def boundByStmt : Stmt → List String
  | .function _ name .. | .cls _ name .. => [name]
  | .ret _ value => boundNamesOption value
  | .assign _ targets value => boundNamesAll targets ++ boundNames value
  | .augment _ target _ value => boundNames target ++ boundNames value
  | .declare _ target _ value _ => boundNames target ++ boundNamesOption value
  | .loop _ target iter body orelse =>
    boundNames target ++ boundNames iter ++ boundByStmts body ++ boundByStmts orelse
  | .cond _ test body orelse => boundNames test ++ boundByStmts body ++ boundByStmts orelse
  | .imports _ names => names.map fun a =>
    a.rename.getD (String.ofList ((a.name.toList.splitOn '.').headD []))
  | .importsFrom _ _ names _ => names.map fun a => a.rename.getD a.name
  | .expr _ value => boundNames value
  | .other _ _ parts => boundByStmts parts
  | .global .. | .pass _ => []

def boundByStmts : List Stmt → List String
  | [] => []
  | s :: rest => boundByStmt s ++ boundByStmts rest

end

mutual

def takenByStmt : Stmt → List String
  | .global _ names => names
  | .loop _ _ _ body orelse | .cond _ _ body orelse => takenByStmts body ++ takenByStmts orelse
  | .other _ _ parts => takenByStmts parts
  | _ => []

def takenByStmts : List Stmt → List String
  | [] => []
  | s :: rest => takenByStmt s ++ takenByStmts rest

end

def paramNames (params : Source.ParamNames) : List String :=
  params.positionalOnly ++ params.positional ++ params.rest.toList ++ params.keywordOnly ++
    params.restKeywords.toList

def ownNames (params : List String) (body : List Stmt) : List String :=
  let outside := takenByStmts body
  params ++ (boundByStmts body).filter fun n => !outside.contains n

end DataDiagram.Static
