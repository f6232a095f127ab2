import DataDiagram.Module.Basic
/-!
# Visible names

A function may read its arguments, its globals and its locals, and may assign to all of them but its
arguments.
-/

namespace DataDiagram

namespace Code

def isAmong (id : Code) (names : List String) : Bool :=
  match id with
  | text s => names.contains s
  | _ => false

def targets (names : List String) : Code → Bool
  | name _ id => id.isAmong names
  | _ => false

mutual

def checkNames (args vars : List String) : Code → Except CodeError Unit
  | datum _ | pass _ | bare _ _ => .ok ()
  | tuple items => checkNamesAll args vars items
  | const _ v | ret _ v | bareCall _ v => checkNames args vars v
  | name r id =>
    if id.isAmong args || id.isAmong vars then .ok ()
    else .error ((name r id).error "not a (visible) name")
  | op _ v w | attr _ v w | item _ v w | call _ v w => do
    checkNames args vars v
    checkNames args vars w
  | block _ body => checkNamesAll args vars body
  | assign r t v o =>
    if t.targets args then .error ((assign r t v o).error "cannot assign parameter")
    else do
      checkNames args vars t
      checkNames args vars v
      checkNames args vars o
  | cond _ u v w | cls _ u v w => do
    checkNames args vars u
    checkNames args vars v
    checkNames args vars w
  | var _ n t s i => do
    checkNames args vars n
    checkNames args vars t
    checkNames args vars s
    checkNames args vars i
  | func .. => .error .nestedFunction

def checkNamesAll (args vars : List String) : List Code → Except CodeError Unit
  | [] => .ok ()
  | c :: rest => do
    checkNames args vars c
    checkNamesAll args vars rest

end

end Code

def Func.checkNames (f : Func) : Except CodeError Unit := do
  Code.checkNamesAll f.args ((f.globals ++ f.locals).map Var.name) (← f.body.items)

def Module.checkNames (m : Module) : Except CodeError Unit := m.functions.forM Func.checkNames

end DataDiagram
