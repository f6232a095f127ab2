import DataDiagram.Source.Private
import DataDiagram.Static.Call
/-!
# Static definitions

What the definitions of a program add to the names that static expressions see: functions, classes
and imported names.
-/

namespace DataDiagram.Static

open Source (Expr Stmt Params Param Alias)

abbrev Env := List (String × Value)

def enter (env : Env) : Run Scope := do
  let globals ← Run.newScope env
  return ⟨← Run.newUnit, globals, none, [], false⟩

def evaluate (env : Env) (e : Expr) : Run Value := do
  let sc ← enter env
  eval apply sc e

def evaluateFormula (locals : Nat) (e : Expr) : Run Value := do
  let globals ← Run.newScope []
  eval apply ⟨← Run.newUnit, globals, some locals, [], true⟩ e

/-! ### Functions -/

def evalTypes (sc : Scope) (params : List Param) : Run Unit :=
  params.forM fun p => do
    let _ ← evalOption apply sc p.type

def defineFunction (env : Env) (name : String) (params : Params) (body : List Stmt)
    (returns : Option Expr) : Run Value := do
  let sc ← enter env
  evalTypes sc params.positional
  evalTypes sc params.positionalOnly
  let _ ← evalOption apply sc returns
  let names : Source.ParamNames :=
    ⟨params.positionalOnly.map Param.name, params.positional.map Param.name, none, [], none⟩
  Run.newFunction name
    { params := names, defaults := [], body := .block body
      localNames := ownNames (paramNames names) body
      unit := sc.unit, globals := sc.globals, frames := [], symbolic := false }

/-! ### Classes -/

def declareField (cls : String) (sc : Scope) : Stmt → Run (List String)
  | .declare _ target type value simple => do
    let target := target.inClass cls
    match value with
    | some e => assignTo apply sc target (← eval apply sc (e.inClass cls))
    | none => pure ()
    let _ ← eval apply sc (type.inClass cls)
    match simple, target with
    | true, .name _ id _ => return [id]
    | _, _ => return []
  | _ => return []

/-- Runs the declarations of a class; the outcome holds the names of its fields. -/
def declareFields (cls : String) (sc : Scope) (body : List Stmt) : Run (List String) := do
  return (← body.mapM (declareField cls sc)).flatten

/-- The classes in the order in which attributes are looked up, merged from several such orders:
each step takes the first class that comes first wherever it occurs.  If there is none, the outcome
holds the classes that stand in each other's way. -/
def mergeOrders : (fuel : Nat) → List (List ClassRef) → Except (List ClassRef) (List ClassRef)
  | 0, _ => .ok []
  | fuel + 1, orders => do
    let orders := orders.filter fun l => !l.isEmpty
    let heads := orders.filterMap List.head?
    if heads.isEmpty then return []
    else
      match heads.find? fun c => orders.all fun l => !(l.drop 1).contains c with
      | none => .error heads.eraseDups
      | some c =>
        let rest ← mergeOrders fuel (orders.map fun l => if l.head? == some c then l.drop 1 else l)
        return c :: rest

def classRef? : Value → Option ClassRef
  | .cls addr => some (.own addr)
  | .builtinClass name => some (.builtin name)
  | _ => none

def classRefName : ClassRef → Eval String
  | .own addr => do return (← Eval.classInfo addr).name
  | .builtin name => return name

def lineage : ClassRef → Eval (List ClassRef)
  | .own addr => do return .own addr :: (← Eval.classInfo addr).ancestors
  | .builtin name =>
    return if name == "object" then [.builtin name] else [.builtin name, .builtin "object"]

def repeatedBase? : List ClassRef → Option ClassRef
  | [] => none
  | c :: rest => if rest.contains c then some c else repeatedBase? rest

def isFinal (name : String) : Bool := ["bool", "range", "slice", "memoryview"].contains name

def hasOwnLayout (name : String) : Bool :=
  ["bytearray", "bytes", "complex", "dict", "enumerate", "filter", "float", "frozenset", "int",
   "list", "map", "property", "reversed", "set", "str", "super", "tuple", "type",
   "zip"].contains name

def baseRefusal (v : Value) : Eval String := do
  match v with
  | .none => return "NoneType takes no arguments"
  | .int .. => return "int() takes at most 2 arguments (3 given)"
  | .complex .. => return "complex() takes at most 2 arguments (3 given)"
  | .str .. => return "str() argument 'encoding' must be str, not tuple"
  | .range .. => return "'str' object cannot be interpreted as an integer"
  | .function _ => return "function() argument 'code' must be code, not str"
  | .builtin _ => return "cannot create 'builtin_function_or_method' instances"
  | .library _ => return "module() takes at most 2 arguments (3 given)"
  | .ellipsis => return "EllipsisType takes no arguments"
  | v => return (← Eval.kindName v) ++ " expected at most 1 argument, got 3"

def ancestorsOf (bases : List ClassRef) : Eval (List ClassRef) := do
  let parents := if bases.isEmpty then [.builtin "object"] else bases
  let names ← parents.mapM classRefName
  match (parents.zip names).find? fun (c, name) => c == .builtin name && isFinal name with
  | some (_, name) => throw (.refused .type s!"type '{name}' is not an acceptable base type")
  | none =>
    match repeatedBase? parents with
    | some c => throw (.duplicateBase (← classRefName c))
    | none =>
      let orders ← parents.mapM lineage
      let builtins := orders.flatten.eraseDups.filter fun c => match c with
        | .builtin name => hasOwnLayout name
        | .own _ => false
      if 1 < builtins.length then
        throw (.refused .type "multiple bases have instance lay-out conflict")
      let size := (orders.map List.length).foldl (· + ·) parents.length
      match mergeOrders (size + 1) (orders ++ [parents]) with
      | .ok order => return order
      | .error stuck => do throw (.noConsistentOrder (← stuck.mapM classRefName))

def requireOneKind (parents : List Value) : Eval Unit := do
  let kinds ← parents.mapM Eval.kindName
  if 1 < kinds.eraseDups.length then
    throw (.refused .type ("metaclass conflict: the metaclass of a derived class must be a " ++
      "(non-strict) subclass of the metaclasses of all its bases"))

def orderAfter (parents : List Value) : Eval (List ClassRef) := do
  match parents.find? fun v => (classRef? v).isNone with
  | some v => throw (.refused .type (← baseRefusal v))
  | none => ancestorsOf (parents.filterMap classRef?)

def decorate (v : Value) : List Value → Run Value
  | [] => return v
  | d :: rest => do apply d ⟨[← decorate v rest], []⟩

def defineClass (env : Env) (name : String) (bases : List Expr) (body : List Stmt)
    (decorators : List Expr) : Run Value := do
  let sc ← enter env
  let around ← evalItems apply sc decorators
  let parents ← evalItems apply sc bases
  requireOneKind parents
  let inner ← Run.newScope []
  let declared ← declareFields name { sc with outer := some inner } body
  let attributes ← Run.namesAt inner
  let ancestors ← orderAfter parents
  let addr ← Eval.alloc (.cls { name, ancestors, attributes, declared, fields := none })
  decorate (.cls addr) around

/-! ### Imports -/

def importLibraries (names : List Alias) : Eval Env := do
  names.foldlM (fun (bound : Env) a => do
    let library ← Library.find a.name
    match a.rename, Library.components a.name with
    | some name, _ => return Names.put bound name library
    | none, first :: _ => return Names.put bound first (.library first)
    | none, [] => return bound) []

def importMembers (library : Option String) (level : Nat) (names : List Alias) : Eval Env := do
  if level != 0 then throw .noPackage
  let name := library.getD ""
  let _ ← Library.find name
  names.foldlM (fun (bound : Env) a => do
    match Library.member? name a.name with
    | some v => return Names.put bound (a.rename.getD a.name) v
    | none => throw (.notImported a.name name)) []

/-- What an import gives a name. -/
def imported (bound : Env) (name : String) : Eval Value :=
  match bound.lookup name with
  | some v => return v
  | none => throw (.importedUnderOtherName name)

end DataDiagram.Static
