import DataDiagram.Code.Origin
/-!
# Source trees

The expressions and statements of a source text, with their positions.  Statements without a meaning
in the language are kept as their kind and their parts in order.
-/

namespace DataDiagram

/-- Names and what they stand for. -/
abbrev Names (α : Type) := List (String × α)

namespace Names

def put {α : Type} : Names α → String → α → Names α
  | [], name, v => [(name, v)]
  | (n, w) :: rest, name, v => if n == name then (n, v) :: rest else (n, w) :: put rest name v

end Names

end DataDiagram

namespace DataDiagram.Source

/-- What a name, an element or a field is written for. -/
inductive Usage
  | load
  | store
  | delete
  deriving DecidableEq

/-- An operator with one operand. -/
inductive UnaryOp
  | invert | logicalNot | plus | minus
  deriving DecidableEq

/-- An arithmetical operator with two operands. -/
inductive BinaryOp
  | add | sub | mult | matMult | div | mod | pow | leftShift | rightShift | bitOr | bitXor | bitAnd
  | floorDiv
  deriving DecidableEq

/-- A connective. -/
inductive BoolOp
  | conj | disj
  deriving DecidableEq

/-- A comparison. -/
inductive CompareOp
  | eq | notEq | lt | ltE | gt | gtE | same | notSame | member | notMember
  deriving DecidableEq

/-- What a comprehension makes. -/
inductive ComprehensionKind
  | list | set | dict | generator
  deriving DecidableEq

/-- The names of the parameters of a function without a name. -/
structure ParamNames where
  positionalOnly : List String
  positional : List String
  rest : Option String
  keywordOnly : List String
  restKeywords : Option String
  deriving DecidableEq

/-- How a value is turned to text within a formatted text. -/
inductive Conversion
  | print
  | display
  | ascii
  deriving DecidableEq

/-- An expression. -/
inductive Expr
  | constant (pos : Option Position) (value : Datum)
  | name (pos : Position) (id : String) (usage : Usage)
  | unary (pos : Position) (op : UnaryOp) (operand : Expr)
  | binary (pos : Position) (op : BinaryOp) (left right : Expr)
  | bool (pos : Position) (op : BoolOp) (values : List Expr)
  | compare (pos : Position) (left : Expr) (ops : List CompareOp) (rights : List Expr)
  | call (pos : Position) (func : Expr) (args : List Expr) (keywords : List (Option String × Expr))
  | field (pos : Position) (value : Expr) (attr : String) (usage : Usage)
  | subscript (pos : Position) (value index : Expr) (usage : Usage)
  | slice (pos : Position) (lower upper step : Option Expr)
  | tuple (pos : Position) (items : List Expr) (usage : Usage)
  | list (pos : Position) (items : List Expr) (usage : Usage)
  | starred (pos : Position) (value : Expr) (usage : Usage)
  | conditional (pos : Position) (test body orelse : Expr)
  | lambda (pos : Position) (params : ParamNames) (keywordDefaults : List (Option Expr))
    (defaults : List Expr) (body : Expr)
  | set (pos : Position) (items : List Expr)
  | dict (pos : Position) (keys : List (Option Expr)) (values : List Expr)
  /-- What is made of values: one part, or a key and a value.  A clause says whether it waits, and
  has a target, the values to go through and conditions. -/
  | comprehension (pos : Position) (kind : ComprehensionKind) (parts : List Expr)
    (clauses : List (Bool × Expr × Expr × List Expr))
  | await (pos : Position) (value : Expr)
  | yield (pos : Position) (value : Option Expr)
  | yieldFrom (pos : Position) (value : Expr)
  /-- A text that is put together from constant and formatted ones. -/
  | joined (pos : Position) (pieces : List Expr)
  | formatted (pos : Position) (value : Expr) (conversion : Option Conversion)
      (layout : Option Expr)
  | named (pos : Position) (target value : Expr)

/-- A parameter of a function. -/
structure Param where
  pos : Position
  name : String
  type : Option Expr

/-- The parameters of a function. -/
structure Params where
  positionalOnly : List Param
  positional : List Param
  rest : Option Param
  keywordOnly : List Param
  keywordDefaults : List (Option Expr)
  restKeywords : Option Param
  defaults : List Expr

/-- A name that is imported, and what it is to be called. -/
structure Alias where
  pos : Position
  name : String
  rename : Option String

/-- An argument by name of a class. -/
structure ClassKeyword where
  pos : Position
  name : Option String
  value : Expr

/-- The kinds of statements without a meaning in the language. -/
inductive OtherStmt
  | asyncFunction
  | delete
  | asyncFor
  | whileLoop
  | withBlock
  | asyncWith
  | matchBlock
  | raising
  | tryBlock
  | tryGroup
  | assertion
  | nonlocal
  | leaveLoop
  | continueLoop
  deriving DecidableEq

/-- A statement. -/
inductive Stmt
  | function (pos : Position) (name : String) (params : Params) (body : List Stmt)
    (decorators : List Expr) (returns : Option Expr)
  | cls (pos : Position) (name : String) (bases : List Expr) (keywords : List ClassKeyword)
    (body : List Stmt) (decorators : List Expr)
  | ret (pos : Position) (value : Option Expr)
  | assign (pos : Position) (targets : List Expr) (value : Expr)
  | augment (pos : Position) (target : Expr) (op : BinaryOp) (value : Expr)
  | declare (pos : Position) (target type : Expr) (value : Option Expr) (simple : Bool)
  | loop (pos : Position) (target iter : Expr) (body orelse : List Stmt)
  | cond (pos : Position) (test : Expr) (body orelse : List Stmt)
  | imports (pos : Position) (names : List Alias)
  | importsFrom (pos : Position) (module : Option String) (names : List Alias) (level : Nat)
  | global (pos : Position) (names : List String)
  | expr (pos : Position) (value : Expr)
  | pass (pos : Position)
  | other (pos : Position) (kind : OtherStmt) (parts : List Stmt)

namespace Expr

def pos? : Expr → Option Position
  | constant p _ => p
  | name p _ _ | unary p _ _ | binary p _ _ _ | bool p _ _ | compare p _ _ _ | call p _ _ _
  | field p _ _ _ | subscript p _ _ _ | slice p _ _ _ | tuple p _ _ | list p _ _
  | starred p _ _ | conditional p _ _ _ | lambda p _ _ _ _ | set p _ | dict p _ _
  | comprehension p _ _ _ | await p _ | yield p _ | yieldFrom p _ | joined p _ | formatted p _ _ _
  | named p _ _ => some p

instance : Inhabited Expr := ⟨constant none .none⟩

end Expr

namespace Stmt

def pos : Stmt → Position
  | function p .. | cls p .. | ret p .. | assign p .. | augment p .. | declare p .. | loop p ..
  | cond p .. | imports p .. | importsFrom p .. | global p .. | expr p .. | pass p | other p .. => p

instance : Inhabited Stmt := ⟨pass ⟨1, 0⟩⟩

end Stmt

end DataDiagram.Source
