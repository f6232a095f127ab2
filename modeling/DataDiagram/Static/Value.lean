import DataDiagram.Source.Tree
import DataDiagram.Static.Error
import DataDiagram.Symbolic.Logic
import DataDiagram.Symbolic.Print
/-!
# Static values

What expressions stand for when they are evaluated ahead of the program: plain values and formulas,
and lists, objects, classes and functions, which live in a store.  Values have an identity: two
values that are equal need not be one and the same.  The identity 0 is that of values of which there
is only one.
-/

namespace DataDiagram.Static

/-- A value. -/
inductive Value
  | none
  | ellipsis
  | notImplemented
  | bool (b : Bool)
  | int (id : Nat) (n : Int)
  | float (id : Nat) (x : Binary64)
  | complex (id : Nat) (z : ComplexNumber)
  | str (id : Nat) (s : String)
  | bytes (id : Nat) (s : String)
  | tuple (id : Nat) (items : List Value)
  | range (id : Nat) (start stop step : Int)
  | slice (id : Nat) (lower upper step : Value)
  | list (addr : Nat)
  | set (addr : Nat)
  | dict (addr : Nat)
  | iterator (kind : String) (addr : Nat)
  | object (addr : Nat)
  | cls (addr : Nat)
  | function (addr : Nat)
  | method (self : Value) (name : String)
  | builtinClass (name : String)
  | builtin (name : String)
  | library (name : String)
  | alias (id : Nat) (origin : Value) (args : List Value)
  | union (id : Nat) (members : List Value)
  | formula (f : Symbolic.Formula)
  | operation (name : String)
  | plain (kind text : String)
  deriving Inhabited

/-- A field of a class, with the value it has if none is given. -/
structure Field where
  name : String
  default : Option Value

/-- What a class is made from. -/
inductive ClassRef
  | own (addr : Nat)
  | builtin (name : String)
  deriving DecidableEq

/-- A class of the program. -/
structure ClassInfo where
  name : String
  ancestors : List ClassRef
  attributes : List (String × Value)
  declared : List String
  fields : Option (List Field)

/-- A function of the program. -/
structure FunctionInfo where
  name : String
  code : Nat
  attributes : List (String × Value)

/-- What is kept in the store. -/
inductive Object
  | list (items : List Value)
  | set (items : List Value)
  | dict (entries : List (Value × Value))
  | iterator (items : List Value) (failure : Option StaticError)
  | record (cls : Nat) (fields : List (String × Value))
  | cls (info : ClassInfo)
  | function (info : FunctionInfo)

/-- What values refer to. -/
structure Heap where
  store : Array Object
  fresh : Nat
  constants : List (Nat × Datum × Value)

abbrev Eval := ExceptT StaticError (StateM Heap)

namespace Heap

def empty : Heap := ⟨#[], 1, []⟩

def maxDepth : Nat := 900

end Heap

namespace Eval

/-! ### The store -/

def alloc (o : Object) : Eval Nat := do
  let m ← get
  set { m with store := m.store.push o }
  return m.store.size

def load (addr : Nat) : Eval Object := do return (← get).store[addr]?.getD (.list [])

def store (addr : Nat) (o : Object) : Eval Unit :=
  modify fun m => { m with store := m.store.setIfInBounds addr o }

def fresh : Eval Nat := do
  let m ← get
  set { m with fresh := m.fresh + 1 }
  return m.fresh

def identity (single : Bool) : Eval Nat := if single then return 0 else fresh

def newList (items : List Value) : Eval Value := do return .list (← alloc (.list items))

def listItems (addr : Nat) : Eval (List Value) := do
  match ← load addr with
  | .list items => return items
  | _ => return []

def setItems (addr : Nat) : Eval (List Value) := do
  match ← load addr with
  | .set items => return items
  | _ => return []

def dictEntries (addr : Nat) : Eval (List (Value × Value)) := do
  match ← load addr with
  | .dict entries => return entries
  | _ => return []

def classInfo (addr : Nat) : Eval ClassInfo := do
  match ← load addr with
  | .cls info => return info
  | _ => return ⟨"", [], [], [], none⟩

/-! ### Making values -/

def isSmall (n : Int) : Bool := -5 ≤ n && n ≤ 256

def ofInt (n : Int) : Eval Value := do
  return .int (← identity (isSmall n)) n

def ofFloat (x : Binary64) : Eval Value := do return .float (← fresh) x

def ofNumber : Number → Eval Value
  | .int n => ofInt n
  | .float x => ofFloat x
  | .complex z => do return .complex (← fresh) z

def isSingle (s : String) : Bool :=
  match s.toList with
  | [] => true
  | [c] => c.toNat < 256
  | _ => false

def ofString (s : String) : Eval Value := do return .str (← identity (isSingle s)) s

def ofBytes (s : String) : Eval Value := do return .bytes (← identity (isSingle s)) s

def newTuple (items : List Value) : Eval Value := do
  return .tuple (← identity items.isEmpty) items

def newRange (start stop step : Int) : Eval Value := do return .range (← fresh) start stop step

/-! ### Kinds -/

def className? : Value → Eval (Option String)
  | .cls addr => do return some (← classInfo addr).name
  | .builtinClass name => return some name
  | _ => return none

def kindName : Value → Eval String
  | .none => return "NoneType"
  | .ellipsis => return "ellipsis"
  | .notImplemented => return "NotImplementedType"
  | .bool _ => return "bool"
  | .int .. => return "int"
  | .float .. => return "float"
  | .complex .. => return "complex"
  | .str .. => return "str"
  | .bytes .. => return "bytes"
  | .tuple .. => return "tuple"
  | .range .. => return "range"
  | .slice .. => return "slice"
  | .list _ => return "list"
  | .set _ => return "set"
  | .dict _ => return "dict"
  | .iterator kind _ => return kind
  | .object addr => do
    match ← load addr with
    | .record cls _ => return (← classInfo cls).name
    | _ => return "object"
  | .cls _ | .builtinClass _ | .operation _ => return "type"
  | .function _ => return "function"
  | .method .. => return "builtin_function_or_method"
  | .builtin name => return if name == "dataclasses.dataclass" then "function"
    else "builtin_function_or_method"
  | .library _ => return "module"
  | .alias .. => return "types.GenericAlias"
  | .union .. => return "types.UnionType"
  | .formula f => return f.kindName
  | .plain kind _ => return kind

/-! ### Plain data -/

def kindText (text : Value → Eval String) : Value → Eval String
  | .none => return "None"
  | .ellipsis => return "..."
  | .builtinClass name => return name
  | .cls addr => do return (← classInfo addr).name
  | v => text v

def functionText (addr : Nat) : Eval String := do
  match ← load addr with
  | .function f => return s!"<function {f.name}>"
  | _ => return "<function>"

def lastPart (name : String) : String := String.ofList ((name.toList.splitOn '.').getLastD [])

/-- A value as plain data, looking at most `depth` levels into the store. -/
def toDatum : (depth : Nat) → Value → Eval Datum
  | _, .none => return .none
  | _, .ellipsis => return .ellipsis
  | _, .notImplemented => return .named "NotImplementedType" "NotImplemented"
  | _, .bool b => return .bool b
  | _, .int _ n => return .int n
  | _, .float _ x => return .float x
  | _, .complex _ z => return .complex z
  | _, .str _ s => return .str s
  | _, .bytes _ s => return .bytes s
  | _, .range _ a b c => return .range a b c
  | _, .plain kind text => return .named kind text
  | _, .builtinClass name => return .named "type" s!"<class '{name}'>"
  | _, .builtin name =>
    return .named "builtin_function_or_method" s!"<built-in function {lastPart name}>"
  | _, .library name => return .named "module" s!"<module '{name}'>"
  | _, .cls addr => do
    let info ← classInfo addr
    return .named "type" s!"<class '{info.name}'>"
  | _, .function addr => do return .named "function" (← functionText addr)
  | _, .method _ name => return .named "builtin_function_or_method" s!"<built-in method {name}>"
  | _, .iterator kind _ => return .named kind s!"<{kind} object>"
  | _, .formula f => return .named f.kindName f.text
  | _, .operation name => return .named "type" s!"<class '{name}'>"
  | 0, _ => return .named "object" "..."
  | depth + 1, .alias _ origin args => do
    let text (v : Value) : Eval String := do return (← toDatum depth v).display
    let parts ← args.mapM (kindText text)
    return .named "types.GenericAlias"
      ((← kindText text origin) ++ "[" ++ ", ".intercalate parts ++ "]")
  | depth + 1, .union _ members => do
    let text (v : Value) : Eval String := do return (← toDatum depth v).display
    return .named "types.UnionType" (" | ".intercalate (← members.mapM (kindText text)))
  | depth + 1, .slice _ a b c => do
    let bounds ← [a, b, c].mapM (toDatum depth)
    return .named "slice" ("slice(" ++ ", ".intercalate (bounds.map Datum.display) ++ ")")
  | depth + 1, .tuple _ items => do return .tuple (← items.mapM (toDatum depth))
  | depth + 1, .list addr => do return .list (← (← listItems addr).mapM (toDatum depth))
  | depth + 1, .set addr => do return .set (← (← setItems addr).mapM (toDatum depth))
  | depth + 1, .dict addr => do
    return .dict (← (← dictEntries addr).mapM fun (k, v) => do
      let key ← toDatum depth k
      return (key, ← toDatum depth v))
  | depth + 1, .object addr => do
    match ← load addr with
    | .record cls fields =>
      let info ← classInfo cls
      let shown := (info.fields.getD []).filterMap fun f => fields.find? fun g => g.1 == f.name
      let data ← shown.mapM fun f => toDatum depth f.2
      return .record info.name ((shown.map Prod.fst).zip data)
    | _ => return .named "object" "..."

def datum (v : Value) : Eval Datum := toDatum Heap.maxDepth v

def shown (v : Value) : Eval Datum := do
  let d ← datum v
  if d.isDisplayable then return d else throw .tooManyDigits

def display (v : Value) : Eval String := do return (← shown v).display

def print (v : Value) : Eval String := do return (← shown v).text

mutual

def ofDatum : Datum → Eval Value
  | .none => return .none
  | .ellipsis => return .ellipsis
  | .bool b => return .bool b
  | .int n => ofInt n
  | .float x => ofFloat x
  | .complex z => ofNumber (.complex z)
  | .str s => ofString s
  | .bytes s => ofBytes s
  | .tuple items => do newTuple (← ofData items)
  | .list items => do newList (← ofData items)
  | .set items => do return .set (← alloc (.set (← ofData items)))
  | .dict entries => do return .dict (← alloc (.dict (← ofEntries entries)))
  | .range a b c => newRange a b c
  | .record cls _ => return .plain cls cls
  | .named kind text => return .plain kind text

def ofData : List Datum → Eval (List Value)
  | [] => return []
  | d :: rest => do
    let v ← ofDatum d
    return v :: (← ofData rest)

def ofEntries : List (Datum × Datum) → Eval (List (Value × Value))
  | [] => return []
  | (k, d) :: rest => do
    let key ← ofDatum k
    let v ← ofDatum d
    return (key, v) :: (← ofEntries rest)

end

/-! ### Truth -/

def truth : Value → Eval Bool
  | .none => return false
  | .bool b => return b
  | .int _ n => return n != 0
  | .float _ x => return !x.isZero
  | .complex _ z => return !z.isZero
  | .str _ s | .bytes _ s => return !s.isEmpty
  | .tuple _ items => return !items.isEmpty
  | .range _ a b c => return Datum.rangeLength a b c != 0
  | .list addr => do return !(← listItems addr).isEmpty
  | .set addr => do return !(← setItems addr).isEmpty
  | .dict addr => do return !(← dictEntries addr).isEmpty
  | .formula f =>
    match f.truth? with
    | some b => return b
    | none => throw (.refused .type "cannot determine truth value of Relational")
  | _ => return true

end Eval

/-! ### Numbers -/

namespace Value

def int? : Value → Option Int
  | .int _ n => some n
  | .bool b => some (if b then 1 else 0)
  | _ => Option.none

def index? : Value → Option Int
  | .formula (.number n) => n.int?
  | v => v.int?

def number? : Value → Option Number
  | .int _ n => some (.int n)
  | .bool b => some (.int (if b then 1 else 0))
  | .float _ x => some (.float x)
  | .complex _ z => some (.complex z)
  | _ => Option.none

def isFormula : Value → Bool
  | .formula _ => true
  | _ => false

end Value

end DataDiagram.Static
