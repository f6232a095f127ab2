import DataDiagram.Module.Basic
import DataDiagram.Reading.Lower
import DataDiagram.Source.Statement
import DataDiagram.Text.Lines
/-!
# Reading modules

A module is read from its text declaration by declaration.  Declarations of variables, classes and
functions go to the module; definitions of static names are seen by what follows them.
-/

namespace DataDiagram.Reading

open Source (Expr Stmt Params Param Alias ClassKeyword)

/-- The initial value of a variable. -/
inductive Initial (V : Type)
  | missing
  | value (v : V)
  | items (vs : List V)

/-- A variable that has been read.  Its initial value is kept apart, since what follows can change
it. -/
structure VarDraft (V : Type) where
  var : Var
  value : Initial V

/-- A class that has been read, without its fields. -/
structure ClassDraft (V : Type) where
  cls : Class
  fields : List (VarDraft V)

/-- A function that has been read, without its variables. -/
structure FuncDraft (V : Type) where
  func : Func
  globals : List (VarDraft V)
  locals : List (VarDraft V)

instance namedVarDraft {V : Type} : Named (VarDraft V) := ⟨fun d => d.var.name⟩

instance namedClassDraft {V : Type} : Named (ClassDraft V) := ⟨fun d => d.cls.name⟩

instance namedFuncDraft {V : Type} : Named (FuncDraft V) := ⟨fun d => d.func.name⟩

/-- What has been read so far. -/
structure Progress (V : Type) where
  env : Names V
  declared : List (String × Int)
  vars : List (VarDraft V)
  classes : List (ClassDraft V)
  functions : List (FuncDraft V)

section Drafts

variable {σ V : Type} (I : Evaluator σ V)

def Initial.isMissing : Initial V → Bool
  | missing => true
  | value v => I.isNone v
  | items _ => false

/-- An initial value as it is in a state. -/
def Initial.datum (s : σ) : Initial V → Datum
  | missing => .none
  | value v => I.datum s v
  | items vs => .tuple (vs.map (I.datum s))

def VarDraft.finish (s : σ) (d : VarDraft V) : Var :=
  { d.var with init := .ofDatum (d.value.datum I s) }

def ClassDraft.finish (s : σ) (d : ClassDraft V) : Class :=
  { d.cls with fields := d.fields.map (VarDraft.finish I s) }

def FuncDraft.finish (s : σ) (d : FuncDraft V) : Func :=
  { d.func with
    globals := d.globals.map (VarDraft.finish I s)
    locals := d.locals.map (VarDraft.finish I s) }

def Progress.finish (s : σ) (st : Progress V) : Module where
  vars := st.vars.map (VarDraft.finish I s)
  classes := st.classes.map (ClassDraft.finish I s)
  functions := st.functions.map (FuncDraft.finish I s)

end Drafts

namespace Progress

variable {σ V : Type}

def empty : Progress V := ⟨[], [], [], [], []⟩

def declare (st : Progress V) (cx : Context) (name : String) (p : Position) : Read σ (Progress V) :=
  match st.declared.lookup name with
  | some line => throw (cx.error p s!"already declared line {line}")
  | none => return { st with declared := (name, p.line) :: st.declared }

def define (st : Progress V) (name : String) (v : V) : Progress V :=
  { st with env := Names.put st.env name v }

def isType (st : Progress V) (name : String) : Bool :=
  name == "int" || name == "bool" || (Table.find? st.classes name).isSome

end Progress

section Reading

variable {σ V : Type} (I : Evaluator σ V) (lines : List String)

/-! ### Variables -/

def initialValue (cx : Context) (env : Names V) (p : Position) : Option Expr → Read σ (Initial V)
  | some e => do return .value (← static cx p (placeOf e) (I.evaluate env [] e))
  | none => return .missing

/-- The items that an array starts with. -/
def arrayItems (cx : Context) (value : Option Expr) (v : V) : Read σ (List V) := do
  let s ← get
  match ← (I.walk v s).collect with
  | .ok items => return items
  | .error (.exit kind message) => throw (.left kind message)
  | .error _ => throw (cx.errorAt (value.getD default) "cannot iterate over init value")

/-- The type of a variable at `p`, its size and what it starts with. -/
def variableType (cx : Context) (p : Position) (type : Expr) (value : Option Expr)
    (init : Initial V) : Read σ (String × Code × Initial V) := do
  match type with
  | .subscript _ base items _ =>
    match base, items with
    | .name .., .name _ id _ => do
      match init with
      | .value v =>
        if I.isNone v then throw (cx.error p "missing initial value")
        let items ← arrayItems I cx value v
        return (id, .datum (.int items.length), .items items)
      | _ => throw (cx.error p "missing initial value")
    | .name .., items => throw (cx.errorAt items "unsupported items type")
    | base, _ => throw (cx.errorAt base "unsupported type")
  | .name _ id _ => return (id, .nothing, init)
  | type => throw (cx.errorAt type "unsupported type")

def variableName (cx : Context) : Expr → Read σ String
  | .name _ name _ => return name
  | target => throw (cx.errorAt target "not a variable declaration")

def readDraft (st : Progress V) (p : Position) (name : String) (type : Expr)
    (value : Option Expr) : Read σ (VarDraft V) := do
  let cx := I.context lines st.env
  let init ← initialValue I cx st.env p value
  let (typeName, size, init) ← variableType I cx p type value init
  if st.isType typeName then
    return ⟨⟨some (cx.origin (some p)), name, typeName, size, .nothing⟩, init⟩
  else throw (cx.errorAt type "unsupported type")

def readVar (st : Progress V) (p : Position) (target type : Expr) (value : Option Expr) :
    Read σ (Progress V × VarDraft V) := do
  let cx := I.context lines st.env
  let name ← variableName cx target
  let st ← st.declare cx name p
  let draft ← readDraft I lines st p name type value
  return ({ st with vars := Table.put st.vars draft }, draft)

/-! ### Functions -/

def requirePlain (cx : Context) (params : Params) : Read σ Unit :=
  let refuse (p : Position) : Read σ Unit := throw (cx.error p "unsupported function arguments")
  match params.rest, params.restKeywords, params.keywordOnly, params.defaults with
  | some a, _, _, _ => refuse a.pos
  | none, some a, _, _ => refuse a.pos
  | none, none, a :: _, _ => refuse a.pos
  | none, none, [], e :: _ => throw (cx.errorAt e "unsupported function arguments")
  | none, none, [], [] => return ()

/-- What has been read of the body of a function. -/
structure BodyProgress (V : Type) where
  body : List Code
  globals : List (VarDraft V)
  locals : List (VarDraft V)

def readGlobals (cx : Context) (vars : List (VarDraft V)) (args : List String) (p : Position) :
    List String → Read σ (List (VarDraft V))
  | [] => return []
  | name :: rest => do
    if args.contains name then throw (cx.error p s!"'{name}' declared as argument")
    match Table.find? vars name with
    | some v => return v :: (← readGlobals cx vars args p rest)
    | none => throw (cx.error p s!"undeclared variable {name}")

def readBody (st : Progress V) (args : List String) :
    BodyProgress V → List Stmt → Read σ (BodyProgress V)
  | b, [] => return b
  | b, s :: rest => do
    let cx := I.context lines st.env
    match s with
    | .global p names =>
      if !b.body.isEmpty then throw (cx.error p "must come before statements")
      if !b.locals.isEmpty then throw (cx.error p "must come before local declarations")
      let globals ← readGlobals cx st.vars args p names
      readBody st args { b with globals := b.globals ++ globals } rest
    | .declare p target type value _ =>
      if !b.body.isEmpty then throw (cx.error p "must come before statements")
      let name ← variableName cx target
      let draft ← readDraft I lines st p name type value
      if args.contains name then throw (cx.error p s!"'{name}' is an argument")
      if (Table.find? b.globals name).isSome then throw (cx.error p s!"'{name}' is declared global")
      if draft.value.isMissing I then throw (cx.error p "missing initial value")
      readBody st args { b with locals := b.locals ++ [draft] } rest
    | s =>
      let c ← lowerStmt I lines st.env [] s
      readBody st args { b with body := b.body ++ [c] } rest

/-- Reads a function from its statement `s` at `p`. -/
def readFunction (st : Progress V) (s : Stmt) (p : Position) (name : String) (params : Params)
    (body : List Stmt) (decorators : List Expr) : Read σ (Progress V) := do
  let cx := I.context lines st.env
  let st ← st.declare cx name p
  match decorators with
  | d :: _ => throw (cx.errorAt d "unsupported function decorators")
  | [] => pure ()
  requirePlain cx params
  let args := (params.positionalOnly ++ params.positional).map Param.name
  let parts ← readBody I lines st args ⟨[], [], []⟩ body
  let value ← static cx p p (I.define st.env s name)
  let ref := some (cx.origin (some p))
  let draft : FuncDraft V :=
    ⟨⟨ref, name, args, .mkBlock ref parts.body, [], []⟩, parts.globals, parts.locals⟩
  return { st.define name value with functions := Table.put st.functions draft }

/-! ### Imports -/

def requireNamed (cx : Context) (a : Alias) : Read σ Unit :=
  if a.name == "*" then throw (cx.error a.pos "unsupported '*'-import") else return ()

/-- Defines the names that the statement `s` at `p` imports, one after the other. -/
def readImports (s : Stmt) (p : Position) (require : Context → Alias → Read σ Unit) :
    Progress V → List Alias → Read σ (Progress V)
  | st, [] => return st
  | st, a :: rest => do
    let cx := I.context lines st.env
    require cx a
    let value ← static cx p p (I.define st.env s (a.rename.getD a.name))
    readImports s p require (st.define a.name value) rest

/-! ### Classes -/

def requireDecorators (cx : Context) : List Expr → Read σ Unit
  | [] => return ()
  | .name _ "dataclass" _ :: rest => requireDecorators cx rest
  | d :: _ => throw (cx.errorAt d "unsupported decorator")

def parentNames (cx : Context) : List Expr → Read σ (List String)
  | [] => return []
  | .name _ id _ :: rest => do return id :: (← parentNames cx rest)
  | b :: _ => throw (cx.errorAt b "expected name")

mutual

def readStmt (st : Progress V) : Stmt → Read σ (Progress V × Option (VarDraft V))
  | .declare p target type value _ => do
    let (st, draft) ← readVar I lines st p target type value
    return (st, some draft)
  | .assign p targets value => do
    let cx := I.context lines st.env
    match targets with
    | [.name _ name _] =>
      let st ← st.declare cx name p
      return (st.define name (← static cx p (placeOf value) (I.evaluate st.env [] value)), none)
    | [target] => throw (cx.errorAt target "unsupported variable declaration")
    | _ => throw (cx.error p "unsupported multiple assignments")
  | .function p name params body decorators returns => do
    let s := Stmt.function p name params body decorators returns
    return (← readFunction I lines st s p name params body decorators, none)
  | .imports p names => do
    return (← readImports I lines (.imports p names) p (fun _ _ => return ()) st names, none)
  | .importsFrom p library names level => do
    let s := Stmt.importsFrom p library names level
    return (← readImports I lines s p requireNamed st names, none)
  | .cls p name bases keywords body decorators => do
    let cx := I.context lines st.env
    let st ← st.declare cx name p
    match keywords with
    | k :: _ => throw (cx.error k.pos "unsupported syntax")
    | [] => pure ()
    requireDecorators cx decorators
    let parents ← parentNames cx bases
    let (inner, fields) ← readFields { st with declared := [], vars := [] } body
    let st := { inner with declared := st.declared, vars := st.vars }
    let s := Stmt.cls p name bases keywords body decorators
    let defined ← static cx p p (I.define st.env s name)
    let value ← orFail cx p (I.record defined)
    let draft : ClassDraft V := ⟨⟨some (cx.origin (some p)), name, [], parents⟩, fields⟩
    return ({ st.define name value with classes := Table.put st.classes draft }, none)
  | .ret p _ | .augment p .. | .loop p .. | .cond p .. | .global p _ | .expr p _ | .pass p
  | .other p .. => throw ((I.context lines st.env).error p "unsupported syntax")

def readFields (st : Progress V) : List Stmt → Read σ (Progress V × List (VarDraft V))
  | [] => return (st, [])
  | s :: rest => do
    let (st, var) ← readStmt st s
    match var with
    | some v =>
      let (st, more) ← readFields st rest
      return (st, v :: more)
    | none => throw ((I.context lines st.env).error s.pos "expected field declaration")

end

/-! ### Modules -/

def readAll : Progress V → List Stmt → Read σ (Progress V)
  | st, [] => return st
  | st, s :: rest => do
    let (st, draft) ← readStmt I lines st s
    match draft with
    | some d =>
      if d.value.isMissing I then throw (.code (d.var.code.error "missing initial value"))
      readAll st rest
    | none => readAll st rest

def readModule (body : List Stmt) : Except ReadError Module :=
  match (readAll I lines .empty body).run I.start with
  | (.ok st, s) => .ok (st.finish I s)
  | (.error e, _) => .error e

end Reading

end DataDiagram.Reading

namespace DataDiagram.Module

/-- Reads a module from its text, with some way to evaluate parts of it. -/
def read {σ V : Type} (I : Reading.Evaluator σ V) (text : String) :
    Except Reading.ReadError Module :=
  match Text.surrogateRefusal? text.toList with
  | some message => .error (.unencodable message)
  | none =>
    if text.toList.contains (Char.ofNat 0) then .error .nullCharacter
    else
      match Source.read text.toList with
      | none => .error .illFormed
      | some body => Reading.readModule I (Text.splitLines text) body

end DataDiagram.Module
