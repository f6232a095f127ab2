import DataDiagram.Code.Inline
import DataDiagram.Module.Calls
/-!
# Scoped modules

A module is cut down to some functions and all they reach.  Their locals become variables of the
module, named after the function, so that the functions have no locals left.
-/

namespace DataDiagram

namespace Func

def globalised (f : Func) : List Var → Except CodeError (List Var)
  | [] => .ok []
  | v :: rest => do
    Code.requireRef "Var" v.ref
    let more ← globalised f rest
    return { v with name := f.localName v.name } :: more

def liftLocals (f : Func) : Except CodeError Func := do
  let vars ← f.globalised f.locals
  let rename := Substitution.ofNames (f.locals.map fun v => (v.name, f.localName v.name))
  let body ← Code.substAll rename (← f.body.items)
  Code.requireRef "Func" f.ref
  return { f with body := .tuple body, globals := f.globals ++ vars, locals := [] }

end Func

namespace Module

def classesOf (m : Module) (vars : List Var) : List Class :=
  vars.filterMap fun v => Table.find? m.classes v.type

def getFunction (m : Module) (name : String) : Except CodeError Func :=
  match Table.find? m.functions name with
  | some f => .ok f
  | none => .error (.unknownFunction name)

/-- The functions that a module is cut down to: those asked for, or if none are those without
arguments, and all that they reach. -/
def selected (m : Module) (functions : List String) : Except CodeError (List String) := do
  let start := if functions.isEmpty
    then (m.functions.filter fun f => f.args.isEmpty).map Func.name
    else functions
  let reached ← start.mapM fun name => do m.reachable (← m.getFunction name)
  let others ← start.mapM fun name => do m.strangers (← m.getFunction name)
  match others.flatten with
  | [] => return (start ++ reached.flatten).eraseDups
  | d :: _ => throw (.unknownFunction d.display)

def ofLifted (m : Module) (functions : List Func) : Module where
  vars := Table.ofList (functions.flatMap Func.globals)
  classes := Table.ofList (functions.flatMap fun f => m.classesOf f.globals)
  functions := Table.ofList functions

def scope (m : Module) (functions : List String) : Except CodeError Module := do
  let names ← m.selected functions
  let lifted ← names.mapM fun name => do (← m.getFunction name).liftLocals
  return m.ofLifted lifted

end Module

end DataDiagram
