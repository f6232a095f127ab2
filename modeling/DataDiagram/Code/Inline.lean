import DataDiagram.Code.Returns
import DataDiagram.Code.Same
import DataDiagram.Code.Subst
/-!
# Inlining

A call is replaced by the body of the function: parameters become the arguments, locals are renamed
after the function, and a return becomes an assignment to the target of the call.
-/

namespace DataDiagram

abbrev Enter := (func args target aug : Code) → Except CodeError (List Code)

abbrev Caller := (f args target aug : Code) → (stack : List Code) → Except CodeError (List Code)

namespace Code

def reblock (parent : Code) (items : List Code) : Except CodeError Code :=
  if parent.isNode then do
    requireRef parent.kindName parent.ref
    return mkBlock parent.ref items
  else .error parent.originError

def inlineRet (target aug : Code) (ref : Option Origin) (value : Code) :
    Except CodeError (List Code) :=
  match target, value with
  | nothing, nothing => .ok []
  | _, nothing => .error ((ret ref value).error "cannot assign bare return")
  | nothing, _ => .error ((ret ref value).error "cannot discard return value")
  | target, value => do
    requireRef "Return" ref
    return [assign ref target value aug]

def inlineBareCall (enter : Enter) : Code → Except CodeError (List Code)
  | call _ f args => enter f args nothing nothing
  | func .. => .error (.noLength nothing.kindName)
  | bareCall _ c => .error (c.calledWith 5)
  | c => .error (.noMember c.kindName "call")

mutual

def inlineWith (enter : Enter) (target aug : Code) : Code → Except CodeError (List Code)
  | pass r => .ok [pass r]
  | assign r t v o =>
    match v with
    | call _ f args => enter f args t o
    | v => .ok [assign r t v o]
  | cond r t a b => do
    let body ← inlineBranch enter target aug a
    let a ← reblock a body
    let orelse ← inlineBranch enter target aug b
    let b ← reblock b orelse
    requireRef "If" r
    return [cond r t a b]
  | ret r v => inlineRet target aug r v
  | bareCall _ c => inlineBareCall enter c
  | block .. => .error .abstractCode
  | bare _ .stmt => .error .abstractCode
  | c => .error (.noMember c.kindName "inline")

def inlineBranch (enter : Enter) (target aug : Code) : Code → Except CodeError (List Code)
  | block _ body => inlineAll enter target aug body
  | tuple items => inlineAll enter target aug items
  | datum (.str s) => if s.isEmpty then .ok [] else .error (.noMember "str" "inline")
  | c => .error (.notSequence c.kindName)

def inlineAll (enter : Enter) (target aug : Code) : List Code → Except CodeError (List Code)
  | [] => .ok []
  | s :: rest => do
    let first ← inlineWith enter target aug s
    let more ← inlineAll enter target aug rest
    return first ++ more

end

def inlineBody (enter : Enter) (target aug : Code) (scope args : Substitution) :
    List Code → Except CodeError (List Code)
  | [] => .ok []
  | s :: rest => do
    requireNode "subst" s
    let renamed ← s.subst scope
    let bound ← renamed.bind args .usual
    let first ← inlineWith enter target aug bound
    let more ← inlineBody enter target aug scope args rest
    return first ++ more

/-! ### Calls -/

def localName (function name : Code) : Except CodeError String := do
  return (← function.shown) ++ "_" ++ (← name.shown)

def scopeEntries (function : Code) : List Code → Except CodeError (List (String × Code))
  | [] => .ok []
  | v :: rest => do
    let declared ← v.declaredName
    let new ← localName function declared
    requireRef v.kindName v.ref
    let more ← scopeEntries function rest
    match declared with
    | text id => return (id, name v.ref (text new)) :: more
    | _ => return more

def find? (defs : List Code) (name : Code) : Option Code :=
  defs.find? fun d =>
    match d.declaredName with
    | .ok n => n.same name
    | .error _ => false

def definitions (defs : List Code) : Except CodeError (List Code) :=
  defs.foldlM (fun (table : List Code) d => do
    let name ← d.declaredName
    let hasName (e : Code) : Bool := (find? [e] name).isSome
    return if table.any hasName then table.map fun e => if hasName e then d else e
      else table ++ [d]) []

def recursiveError (f : Code) : CodeError := f.error "unsupported recursive function"

def checkArity (f params args : Code) : Except CodeError Unit := do
  let given ← args.length
  let expected ← params.length
  if given == expected then return
  else throw (f.error ("expected " ++ toString expected ++ " arguments, got " ++ toString given))

/-- Enters the function of a name with the functions that are on the stack. -/
def entering (defs : List Code) (caller : Caller) (stack : List Code) : Enter :=
  fun callee args target aug =>
    match find? defs callee with
    | none => do throw (.unknownFunction (← callee.shown))
    | some g => caller g args target aug stack

/-- The statements of a call, with those of the calls in it made by `inner`. -/
def callOnce (defs : List Code) (inner : Caller) : Caller
  | func r n params body globals locals, args, target, aug, stack => do
    let f := func r n params body globals locals
    checkArity f params args
    if stack.any n.same then throw f.recursiveError
    let parameters ← params.items
    let arguments ← args.items
    let scope ← scopeEntries n (← locals.items)
    let body ← body.normalReturns
    let statements ← body.items
    inlineBody (entering defs inner (stack ++ [n])) target aug (.ofList scope)
      (.ofArguments parameters arguments) statements
  | call .., _, _, _, _ => .error .callGivenArguments
  | bareCall _ c, _, _, _, _ => .error (c.calledWith 6)
  | c, _, _, _, _ => .error (.noMember c.kindName "call")

/-- The statements of a call, in which calls nest up to a depth; those that lie deeper are made by
`deeper`. -/
def callAt (defs : List Code) (deeper : Caller) : (depth : Nat) → Caller
  | 0 => deeper
  | depth + 1 => callOnce defs (callAt defs deeper depth)

def callDepth (defs : List Code) : Nat := defs.length + 2

def tooDeep : Caller := fun f _ _ _ _ => .error f.recursiveError

/-- The statements of a call of a function: its result goes to the target, by way of the operator if
there is one.  The functions on the stack are being inlined and cannot be entered.  A function that
is entered adds its name to the stack, so that more calls than there are functions only nest if one
of them is recursive. -/
def callWith (defs : List Code) : Caller := callAt defs tooDeep (callDepth defs)

def enter (defs stack : List Code) : Enter := entering defs (callWith defs) stack

def inline (defs : List Code) (c target aug : Code) (stack : List Code) :
    Except CodeError (List Code) :=
  inlineWith (enter defs stack) target aug c

def apply (defs : List Code) (c args target aug : Code) (stack : List Code) :
    Except CodeError (List Code) :=
  match c with
  | call _ f own => enter defs stack f own target aug
  | c => callWith defs c args target aug stack

end Code

namespace Func

def localName (f : Func) (name : String) : String := f.name ++ "_" ++ name

/-- The statements of a call of a function: its result goes to the target, by way of the operator
if there is one.  The functions on the stack are being inlined and cannot be entered. -/
def call (defs : List Func) (f : Func) (args : List Code) (target : Option Code)
    (aug : Option String) (stack : List String) : Except CodeError (List Code) :=
  Code.callWith (defs.map code) f.code (.tuple args) (.ofOption target) (.ofText? aug)
    (stack.map .text)

end Func

end DataDiagram
