import DataDiagram.Static.Evaluate
/-!
# Calls

What functions and classes of the program make of their arguments, and how classes are given fields.
-/

namespace DataDiagram.Static

open Source (Expr Stmt)

def callFunction (apply : Apply) (name : String) (f : Closure) (args : Arguments) : Run Value := do
  let bound ← Signature.bind ⟨name, f.params, f.defaults, 0⟩ args
  let sc ← f.scope.inside f.localNames bound false
  match f.body with
  | .block stmts => do return (← runAll apply sc stmts).getD .none
  | .result e => eval apply sc e

def instantiate (addr : Nat) (args : Arguments) : Eval Value := do
  let info ← Eval.classInfo addr
  match info.fields with
  | some fields =>
    let defaults := fields.filterMap fun f => f.default.map fun v => (f.name, v)
    let params : Source.ParamNames := ⟨[], fields.map Field.name, none, [], none⟩
    let sig : Signature := ⟨info.name ++ ".__init__", params, defaults, 1⟩
    return .object (← Eval.alloc (.record addr (← sig.bind args)))
  | none =>
    if args.positional.isEmpty && args.named.isEmpty then
      return .object (← Eval.alloc (.record addr []))
    else throw (.refused .type (info.name ++ "() takes no arguments"))

/-! ### Classes with fields -/

def isMutable (v : Value) : Eval Bool := do
  match v with
  | .list _ | .set _ | .dict _ | .slice .. => return true
  | .object addr =>
    match ← Eval.load addr with
    | .record cls _ => return (← Eval.classInfo cls).fields.isSome
    | _ => return false
  | _ => return false

def putField : List Field → Field → List Field
  | [], f => [f]
  | g :: rest, f => if g.name == f.name then f :: rest else g :: putField rest f

def inheritedFields : List ClassRef → Eval (List Field)
  | [] => return []
  | .own addr :: rest => do
    let further ← inheritedFields rest
    return ((← Eval.classInfo addr).fields.getD []).foldl putField further
  | .builtin _ :: rest => inheritedFields rest

def ownFields (addr : Nat) : List String → Eval (List Field)
  | [] => return []
  | name :: rest => do
    let default ← classAttribute? addr name
    match default with
    | some v => if ← isMutable v then throw (.mutableDefault (← Eval.kindName v) name)
    | none => pure ()
    return ⟨name, default⟩ :: (← ownFields addr rest)

def misplaced? : (seen : Bool) → List Field → Option String
  | _, [] => none
  | seen, f :: rest =>
    if f.default.isSome then misplaced? true rest
    else if seen then some f.name
    else misplaced? seen rest

def giveFields (addr : Nat) : Eval Unit := do
  let info ← Eval.classInfo addr
  let own ← ownFields addr info.declared.eraseDups
  let fields := own.foldl putField (← inheritedFields info.ancestors)
  match misplaced? false fields with
  | some name => throw (.defaultOrder name)
  | none => Eval.store addr (.cls { info with fields := some fields })

def dataclass (v : Value) : Eval Value := do
  match v with
  | .cls addr => do
    giveFields addr
    return v
  | .none => return .plain "function" "<function dataclass.<locals>.wrap>"
  | .builtinClass name =>
    throw (.refused .type
      s!"cannot set '__dataclass_params__' attribute of immutable type '{name}'")
  | .function _ | .object _ => throw (.noAttribute (← Eval.kindName v) "__mro__")
  | .builtin _ => throw (.noAttribute (← Eval.kindName v) "__dataclass_params__")
  | .library name => throw (.noLibraryAttribute name "__module__")
  | v => throw (.noAttribute (← Eval.kindName v) "__module__")

/-- What is made of the arguments of anything that can be called, calls nesting at most `depth`
times. -/
def applyWithin : (depth : Nat) → Apply
  | 0, _, _ => throw .recursionLimit
  | depth + 1, v, args => do
    match v with
    | .function addr =>
      match ← Eval.load addr with
      | .function f =>
        match ← Run.closureAt? f.code with
        | some c => callFunction (applyWithin depth) f.name c args
        | none => throw (.notCallable "function")
      | _ => throw (.notCallable "function")
    | .cls addr => instantiate addr args
    | .builtinClass name => Builtin.construct (applyWithin depth) name args
    | .builtin "dataclasses.dataclass" =>
      match args.positional, args.named with
      | [v], [] => dataclass v
      | _, _ => throw (.refused .type "dataclass() cannot be evaluated")
    | .builtin name => Builtin.call (applyWithin depth) name args
    | .operation name => Algebra.call name args.positional args.named
    | .method _ name => throw (.refused .type (name ++ "() cannot be evaluated"))
    | v => throw (.notCallable (← Eval.kindName v))

def callDepth : Nat := 900

def apply : Apply := applyWithin callDepth

end DataDiagram.Static
