import DataDiagram.Source.Tree
/-!
# Changes of expressions

An expression is changed node by node.  In this way a loop variable is replaced by a constant
wherever it is read.  The constant is not in the text, so it has no position until it is given one.
-/

namespace DataDiagram.Source.Expr

section

variable {σ : Type} (node : σ → Expr → Expr) (below : σ → Position → σ)

mutual

/-- An expression with every node changed: `node` makes a node of one whose parts have been changed,
and `below` is what the parts of an expression at a position are told. -/
def change (s : σ) : Expr → Expr
  | .constant p d => node s (.constant p d)
  | .name p id u => node s (.name p id u)
  | .unary p op a => node s (.unary p op (change (below s p) a))
  | .binary p op a b => node s (.binary p op (change (below s p) a) (change (below s p) b))
  | .bool p op values => node s (.bool p op (changeAll (below s p) values))
  | .compare p a ops rights =>
    node s (.compare p (change (below s p) a) ops (changeAll (below s p) rights))
  | .call p f args keywords =>
    node s (.call p (change (below s p) f) (changeAll (below s p) args)
      (changeNamed (below s p) keywords))
  | .field p a attr u => node s (.field p (change (below s p) a) attr u)
  | .subscript p a i u => node s (.subscript p (change (below s p) a) (change (below s p) i) u)
  | .slice p a b c =>
    node s (.slice p (changeOption (below s p) a) (changeOption (below s p) b)
      (changeOption (below s p) c))
  | .tuple p items u => node s (.tuple p (changeAll (below s p) items) u)
  | .list p items u => node s (.list p (changeAll (below s p) items) u)
  | .starred p a u => node s (.starred p (change (below s p) a) u)
  | .conditional p t a b =>
    node s (.conditional p (change (below s p) t) (change (below s p) a) (change (below s p) b))
  | .lambda p params keywordDefaults defaults body =>
    node s (.lambda p params (changeOptions (below s p) keywordDefaults)
      (changeAll (below s p) defaults) (change (below s p) body))
  | .set p items => node s (.set p (changeAll (below s p) items))
  | .dict p keys values =>
    node s (.dict p (changeOptions (below s p) keys) (changeAll (below s p) values))
  | .comprehension p kind parts clauses =>
    node s (.comprehension p kind (changeAll (below s p) parts) (changeClauses (below s p) clauses))
  | .await p a => node s (.await p (change (below s p) a))
  | .yield p a => node s (.yield p (changeOption (below s p) a))
  | .yieldFrom p a => node s (.yieldFrom p (change (below s p) a))
  | .joined p pieces => node s (.joined p (changeAll (below s p) pieces))
  | .formatted p a conversion layout =>
    node s (.formatted p (change (below s p) a) conversion (changeOption (below s p) layout))
  | .named p target a => node s (.named p (change (below s p) target) (change (below s p) a))

def changeAll (s : σ) : List Expr → List Expr
  | [] => []
  | e :: rest => change s e :: changeAll s rest

def changeNamed (s : σ) : List (Option String × Expr) → List (Option String × Expr)
  | [] => []
  | (key, e) :: rest => (key, change s e) :: changeNamed s rest

def changeOption (s : σ) : Option Expr → Option Expr
  | none => none
  | some e => some (change s e)

def changeOptions (s : σ) : List (Option Expr) → List (Option Expr)
  | [] => []
  | e :: rest => changeOption s e :: changeOptions s rest

def changeClauses (s : σ) :
    List (Bool × Expr × Expr × List Expr) → List (Bool × Expr × Expr × List Expr)
  | [] => []
  | (waits, target, iter, conditions) :: rest =>
    (waits, change s target, change s iter, changeAll s conditions) :: changeClauses s rest

end

end

abbrev LoopVars := List (String × Datum)

def bindNode (vars : LoopVars) : Expr → Expr
  | .name p id u =>
    match vars.lookup id with
    | some d => .constant none d
    | none => .name p id u
  | e => e

def bind : LoopVars → Expr → Expr := change bindNode fun vars _ => vars

def placedNode (p : Position) : Expr → Expr
  | .constant q d => .constant (some (q.getD p)) d
  | e => e

/-- The expression in which everything has a position: what has none takes that of the nearest
expression around it, or the one given if there is none. -/
def placed : Position → Expr → Expr := change placedNode fun _ p => p

end DataDiagram.Source.Expr
