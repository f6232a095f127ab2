import DataDiagram.Code.Origin
/-!
# Code trees

The trees of the language: expressions, statements and declarations.  One type holds them all,
together with the plain values and the sequences that stand in the fields of a node, because a name
can be replaced by any piece of code.  Every node may carry its origin.
-/

namespace DataDiagram

/-- The kinds of code that stand for no particular construct. -/
inductive AbstractKind
  | code
  | expr
  | lookup
  | compound
  | stmt
  | decl
  deriving DecidableEq

/-- A piece of code, or what else a field of one holds. -/
inductive Code
  | datum (d : Datum)
  | tuple (items : List Code)
  | const (ref : Option Origin) (val : Code)
  | op (ref : Option Origin) (op children : Code)
  | name (ref : Option Origin) (id : Code)
  | attr (ref : Option Origin) (value attr : Code)
  | item (ref : Option Origin) (value item : Code)
  | call (ref : Option Origin) (func args : Code)
  | block (ref : Option Origin) (body : List Code)
  | pass (ref : Option Origin)
  | assign (ref : Option Origin) (target value op : Code)
  | cond (ref : Option Origin) (test body orelse : Code)
  | ret (ref : Option Origin) (value : Code)
  | bareCall (ref : Option Origin) (call : Code)
  | var (ref : Option Origin) (name type size init : Code)
  | cls (ref : Option Origin) (name fields parents : Code)
  | func (ref : Option Origin) (name args body globals locals : Code)
  | bare (ref : Option Origin) (kind : AbstractKind)

namespace AbstractKind

def name : AbstractKind → String
  | code => "Code"
  | expr => "Expr"
  | lookup => "Lookup"
  | compound => "Compound"
  | stmt => "Stmt"
  | decl => "Decl"

end AbstractKind

namespace Code

/-! ### Contents of fields -/

@[match_pattern] abbrev nothing : Code := datum .none

@[match_pattern] abbrev text (s : String) : Code := datum (.str s)

instance : Inhabited Code := ⟨nothing⟩

def ofOption : Option Code → Code
  | none => nothing
  | some c => c

def ofText? : Option String → Code
  | none => nothing
  | some s => text s

def ofTexts (texts : List String) : Code := tuple (texts.map text)

mutual

def ofDatum : Datum → Code
  | .tuple items => tuple (ofData items)
  | d => datum d

def ofData : List Datum → List Code
  | [] => []
  | d :: rest => ofDatum d :: ofData rest

end

/-! ### Nodes with plain fields -/

@[match_pattern] abbrev constOf (ref : Option Origin) (d : Datum) : Code := const ref (datum d)

@[match_pattern] abbrev nameOf (ref : Option Origin) (id : String) : Code := name ref (text id)

@[match_pattern] abbrev opOf (ref : Option Origin) (symbol : String) (operands : List Code) :
    Code :=
  op ref (text symbol) (tuple operands)

@[match_pattern] abbrev attrOf (ref : Option Origin) (value : Code) (field : String) : Code :=
  attr ref value (text field)

@[match_pattern] abbrev callOf (ref : Option Origin) (function : String) (args : List Code) :
    Code :=
  call ref (text function) (tuple args)

/-! ### Kinds -/

def kindName : Code → String
  | datum d => d.kind
  | tuple _ => "tuple"
  | const .. => "Const"
  | op .. => "Op"
  | name .. => "Name"
  | attr .. => "Attr"
  | item .. => "Item"
  | call .. => "Call"
  | block .. => "Block"
  | pass .. => "Pass"
  | assign .. => "Assign"
  | cond .. => "If"
  | ret .. => "Return"
  | bareCall .. => "BareCall"
  | var .. => "Var"
  | cls .. => "Class"
  | func .. => "Func"
  | bare _ kind => kind.name

def ref : Code → Option Origin
  | const r _ | op r _ _ | name r _ | attr r _ _ | item r _ _ | call r _ _ | block r _ | pass r
  | assign r _ _ _ | cond r _ _ _ | ret r _ | bareCall r _ | var r _ _ _ _ | cls r _ _ _
  | func r _ _ _ _ _ | bare r _ => r
  | datum _ | tuple _ => none

def isNode : Code → Bool
  | datum _ | tuple _ => false
  | _ => true

def isOp : Code → Bool
  | op .. => true
  | _ => false

def isRet : Code → Bool
  | ret .. => true
  | _ => false

def isExpr : Code → Bool
  | const .. | op .. | name .. | attr .. | item .. | call .. => true
  | bare _ kind => kind == .expr || kind == .lookup
  | _ => false

def isLookup : Code → Bool
  | name .. | attr .. | item .. => true
  | bare _ kind => kind == .lookup
  | _ => false

def isCompound : Code → Bool
  | block .. | pass .. | assign .. | cond .. | ret .. | bareCall .. | var .. | cls ..
  | func .. => true
  | bare _ kind => kind == .compound || kind == .stmt || kind == .decl
  | _ => false

/-! ### Sequences -/

def items? : Code → Option (List Code)
  | tuple items => some items
  | block _ body => some body
  | text s => some (s.toList.map fun c => text (String.singleton c))
  | _ => none

def items (c : Code) : Except CodeError (List Code) :=
  match c.items? with
  | some items => .ok items
  | none => .error (.notSequence c.kindName)

def length (c : Code) : Except CodeError Nat :=
  match c with
  | tuple items => .ok items.length
  | text s => .ok s.length
  | c => .error (.noLength c.kindName)

def truth : Code → Bool
  | datum d => d.truth
  | tuple items => !items.isEmpty
  | block _ body => !body.isEmpty
  | _ => true

mutual

/-- The statements that a piece of code contributes to a block: blocks and sequences are opened. -/
def flatten : Code → List Code
  | block _ body => flattenAll body
  | tuple items => flattenAll items
  | c => [c]

/-- The statements that several pieces of code contribute to a block. -/
def flattenAll : List Code → List Code
  | [] => []
  | c :: rest => flatten c ++ flattenAll rest

end

def mkBlock (ref : Option Origin) (body : List Code) : Code := block ref (flattenAll body)

/-! ### Errors -/

def error (c : Code) (message : String) : CodeError :=
  match c.ref with
  | none => .noOrigin c.kindName "__file__"
  | some o => o.error message

/-- Succeeds if there is an origin to take over; `kind` names whose it is. -/
def requireRef (kind : String) (ref : Option Origin) : Except CodeError Unit :=
  match ref with
  | none => .error (.noOrigin kind "__ast__")
  | some _ => .ok ()

def requireNode (member : String) (c : Code) : Except CodeError Unit :=
  if c.isNode then .ok () else .error (.noMember c.kindName member)

def declaredName (c : Code) : Except CodeError Code :=
  match c with
  | var _ n _ _ _ | cls _ n _ _ | func _ n _ _ _ _ => .ok n
  | c => .error (.noMember c.kindName "name")

def calledWith (given : Nat) (c : Code) : CodeError :=
  if c.isNode then .callNotFunction given else .notCallable c.kindName

end Code

/-! ### Declarations -/

/-- A declaration of a variable, with its initial value. -/
structure Var where
  ref : Option Origin
  name : String
  type : String
  size : Code
  init : Code
  deriving Inhabited

/-- A declaration of a class. -/
structure Class where
  ref : Option Origin
  name : String
  fields : List Var
  parents : List String
  deriving Inhabited

/-- A declaration of a function. -/
structure Func where
  ref : Option Origin
  name : String
  args : List String
  body : Code
  globals : List Var
  locals : List Var
  deriving Inhabited

def Var.code (v : Var) : Code := .var v.ref (.text v.name) (.text v.type) v.size v.init

def Class.code (c : Class) : Code :=
  .cls c.ref (.text c.name) (.tuple (c.fields.map Var.code)) (.ofTexts c.parents)

def Func.code (f : Func) : Code :=
  .func f.ref (.text f.name) (.ofTexts f.args) f.body (.tuple (f.globals.map Var.code))
    (.tuple (f.locals.map Var.code))

namespace Code

/-- The text that a field has to hold; `kind` names what is declared. -/
def asText (kind : String) : Code → Except CodeError String
  | text s => .ok s
  | _ => .error (.unusable kind)

def asTuple (kind : String) : Code → Except CodeError (List Code)
  | tuple items => .ok items
  | _ => .error (.unusable kind)

def asVar : Code → Except CodeError Var
  | var r n t s i => do return ⟨r, ← n.asText "Var", ← t.asText "Var", s, i⟩
  | c => .error (.unusable c.kindName)

def asClass : Code → Except CodeError Class
  | cls r n fs ps => do
    return ⟨r, ← n.asText "Class", ← (← fs.asTuple "Class").mapM asVar,
      ← (← ps.asTuple "Class").mapM (asText "Class")⟩
  | c => .error (.unusable c.kindName)

def asFunc : Code → Except CodeError Func
  | func r n as b gs ls => do
    return ⟨r, ← n.asText "Func", ← (← as.asTuple "Func").mapM (asText "Func"), b,
      ← (← gs.asTuple "Func").mapM asVar, ← (← ls.asTuple "Func").mapM asVar⟩
  | c => .error (.unusable c.kindName)

end Code

end DataDiagram
