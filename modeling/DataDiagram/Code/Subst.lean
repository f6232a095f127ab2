import DataDiagram.Code.Display
/-!
# Substitution

Names are replaced by constants, by other names or by code.  Binding does the same to a statement
whose names are parameters: there the variable that an assignment writes to stays as it is.
-/

namespace DataDiagram

/-- What stands in for each name, if anything does: an integer for a constant, a text for another
name, or a piece of code. -/
abbrev Substitution := String → Option Code

namespace Substitution

def ofList (entries : List (String × Code)) : Substitution := fun name =>
  (entries.reverse.find? fun e => e.1 == name).map Prod.snd

def ofNames (entries : List (String × String)) : Substitution :=
  ofList (entries.map fun e => (e.1, .text e.2))

def ofArguments (params args : List Code) : Substitution :=
  ofList ((params.zip args).filterMap fun e =>
    match e.1 with
    | .text p => some (p, e.2)
    | _ => none)

end Substitution

namespace Code

def replaceName (ref : Option Origin) (id : Code) : Code → Except CodeError Code
  | nothing => .ok (name ref id)
  | datum (.int n) => do
    requireRef "Name" ref
    return const ref (datum (.int n))
  | datum (.bool b) => do
    requireRef "Name" ref
    return const ref (datum (.bool b))
  | text new => do
    requireRef "Name" ref
    return name ref (text new)
  | datum d => .error (.cannotSubstitute d.text)
  | tuple items => .error (.cannotSubstitute (tuple items).display)
  | c => .ok c

def substName (m : Substitution) (ref : Option Origin) (id : Code) : Except CodeError Code :=
  match id with
  | text s =>
    match m s with
    | some c => replaceName ref id c
    | none => .ok (name ref id)
  | id => .ok (name ref id)

mutual

/-- Code after a substitution.  Every node but a name is made anew from its own origin, plain values
stay. -/
def subst (m : Substitution) : Code → Except CodeError Code
  | datum d => .ok (datum d)
  | tuple items => do return tuple (← substItems m items)
  | const r v => do
    let v ← subst m v
    requireRef "Const" r
    return const r v
  | op r o cs => do
    let o ← subst m o
    let cs ← subst m cs
    requireRef "Op" r
    return op r o cs
  | name r id => substName m r id
  | attr r v a => do
    let v ← subst m v
    let a ← subst m a
    requireRef "Attr" r
    return attr r v a
  | item r v i => do
    let v ← subst m v
    let i ← subst m i
    requireRef "Item" r
    return item r v i
  | call r f as => do
    let f ← subst m f
    let as ← subst m as
    requireRef "Call" r
    return call r f as
  | block r body => do
    let body ← substItems m body
    requireRef "Block" r
    return mkBlock r body
  | pass r => do
    requireRef "Pass" r
    return pass r
  | assign r t v o => do
    let t ← subst m t
    let v ← subst m v
    let o ← subst m o
    requireRef "Assign" r
    return assign r t v o
  | cond r t a b => do
    let t ← subst m t
    let a ← subst m a
    let b ← subst m b
    requireRef "If" r
    return cond r t a b
  | ret r v => do
    let v ← subst m v
    requireRef "Return" r
    return ret r v
  | bareCall r c => do
    let c ← subst m c
    requireRef "BareCall" r
    return bareCall r c
  | var r n t s i => do
    let n ← subst m n
    let t ← subst m t
    let s ← subst m s
    let i ← subst m i
    requireRef "Var" r
    return var r n t s i
  | cls _ n fs ps => do
    let _ ← subst m n
    let _ ← subst m fs
    let _ ← subst m ps
    throw .classRebuilt
  | func r n as b gs ls => do
    let n ← subst m n
    let as ← subst m as
    let b ← subst m b
    let gs ← subst m gs
    let ls ← subst m ls
    requireRef "Func" r
    return func r n as b gs ls
  | bare r kind => do
    requireRef kind.name r
    return bare r kind

def substItems (m : Substitution) : List Code → Except CodeError (List Code)
  | [] => .ok []
  | c :: rest =>
    if c.isNode then do
      let first ← subst m c
      let more ← substAll m rest
      return first :: more
    else .ok (c :: rest)

def substAll (m : Substitution) : List Code → Except CodeError (List Code)
  | [] => .ok []
  | c :: rest => do
    requireNode "subst" c
    let first ← subst m c
    let more ← substAll m rest
    return first :: more

end

/-- How code is bound: as part of a target, as something read, or as its kind has it. -/
inductive BindMode
  | target
  | value
  | usual
  deriving DecidableEq

/-- Code after its parameters are bound.  The variable at the base of a target is left alone; the
base of a field counts as a target unless it is said not to be one. -/
def bind (m : Substitution) : BindMode → Code → Except CodeError Code
  | _, datum d => .error (.noMember d.kind "bind")
  | _, tuple _ => .error (.noMember "tuple" "bind")
  | .usual, assign r t v o => do
    let t ← bind m .target t
    let v ← bind m .usual v
    requireRef "Assign" r
    return assign r t v o
  | _, assign .. => .error (.notBindable "Assign")
  | mode, attr r v a => do
    let v ← bind m (if mode == .usual then .target else mode) v
    requireRef "Attr" r
    return attr r v a
  | mode, item r v i => do
    let v ← bind m (if mode == .usual then .value else mode) v
    let i ← bind m .usual i
    requireRef "Item" r
    return item r v i
  | .target, name r id => .ok (name r id)
  | _, name r id => substName m r id
  | _, bare _ .lookup => .error .abstractCode
  | .usual, c => c.subst m
  | _, _ => .error (.notBindable "Code")

end Code

end DataDiagram
