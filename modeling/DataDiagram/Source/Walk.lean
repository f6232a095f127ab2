import DataDiagram.Source.Tree
/-!
# Walks

What the expressions of a source tree hold, collected in the order of the text: names that are
written, constants, and the like.
-/

namespace DataDiagram.Source

variable {α : Type}

namespace Expr

mutual

/-- What `f` finds at an expression and at its parts, an expression before its parts. -/
def collect (f : Expr → List α) : Expr → List α
  | .constant p d => f (.constant p d)
  | .name p id u => f (.name p id u)
  | .unary p op a => f (.unary p op a) ++ collect f a
  | .binary p op a b => f (.binary p op a b) ++ collect f a ++ collect f b
  | .bool p op values => f (.bool p op values) ++ collectAll f values
  | .compare p a ops rights => f (.compare p a ops rights) ++ collect f a ++ collectAll f rights
  | .call p g args keywords =>
    f (.call p g args keywords) ++ collect f g ++ collectAll f args ++ collectNamed f keywords
  | .field p a attr u => f (.field p a attr u) ++ collect f a
  | .subscript p a i u => f (.subscript p a i u) ++ collect f a ++ collect f i
  | .slice p a b c =>
    f (.slice p a b c) ++ collectOption f a ++ collectOption f b ++ collectOption f c
  | .tuple p items u => f (.tuple p items u) ++ collectAll f items
  | .list p items u => f (.list p items u) ++ collectAll f items
  | .starred p a u => f (.starred p a u) ++ collect f a
  | .conditional p t a b => f (.conditional p t a b) ++ collect f t ++ collect f a ++ collect f b
  | .lambda p params keywordDefaults defaults body =>
    f (.lambda p params keywordDefaults defaults body) ++ collectOptions f keywordDefaults ++
      collectAll f defaults ++ collect f body
  | .set p items => f (.set p items) ++ collectAll f items
  | .dict p keys values => f (.dict p keys values) ++ collectOptions f keys ++ collectAll f values
  | .comprehension p kind parts clauses =>
    f (.comprehension p kind parts clauses) ++ collectAll f parts ++ collectClauses f clauses
  | .await p a => f (.await p a) ++ collect f a
  | .yield p a => f (.yield p a) ++ collectOption f a
  | .yieldFrom p a => f (.yieldFrom p a) ++ collect f a
  | .joined p pieces => f (.joined p pieces) ++ collectAll f pieces
  | .formatted p a conversion layout =>
    f (.formatted p a conversion layout) ++ collect f a ++ collectOption f layout
  | .named p target a => f (.named p target a) ++ collect f target ++ collect f a

/-- What `f` finds in several expressions. -/
def collectAll (f : Expr → List α) : List Expr → List α
  | [] => []
  | e :: rest => collect f e ++ collectAll f rest

/-- What `f` finds in arguments by name. -/
def collectNamed (f : Expr → List α) : List (Option String × Expr) → List α
  | [] => []
  | (_, e) :: rest => collect f e ++ collectNamed f rest

/-- What `f` finds in an expression that may be missing. -/
def collectOption (f : Expr → List α) : Option Expr → List α
  | none => []
  | some e => collect f e

/-- What `f` finds in several expressions that may be missing. -/
def collectOptions (f : Expr → List α) : List (Option Expr) → List α
  | [] => []
  | e :: rest => collectOption f e ++ collectOptions f rest

/-- What `f` finds in the clauses of a comprehension. -/
def collectClauses (f : Expr → List α) : List (Bool × Expr × Expr × List Expr) → List α
  | [] => []
  | (_, target, iter, conditions) :: rest =>
    collect f target ++ collect f iter ++ collectAll f conditions ++ collectClauses f rest

end

def writes (id : String) : Expr → List Position
  | .name p n .store => if n == id then [p] else []
  | _ => []

/-- The name that an expression is. -/
def usedNames : Expr → List String
  | .name _ id _ => [id]
  | _ => []

end Expr

namespace Params

def all (ps : Params) : List Param :=
  ps.positionalOnly ++ ps.positional ++ ps.rest.toList ++ ps.keywordOnly ++ ps.restKeywords.toList

/-- What `f` finds in the types and the default values of parameters. -/
def collect (f : Expr → List α) (ps : Params) : List α :=
  let types (params : List Param) : List α := params.flatMap fun p => Expr.collectOption f p.type
  types ps.positionalOnly ++ types ps.positional ++ types ps.rest.toList ++ types ps.keywordOnly ++
    ps.keywordDefaults.flatMap (Expr.collectOption f) ++ types ps.restKeywords.toList ++
    Expr.collectAll f ps.defaults

end Params

namespace Stmt

mutual

/-- What `f` finds in the expressions of a statement. -/
def collect (f : Expr → List α) : Stmt → List α
  | .function _ _ params body decorators returns =>
    params.collect f ++ collectAll f body ++ Expr.collectAll f decorators ++
      Expr.collectOption f returns
  | .cls _ _ bases keywords body decorators =>
    Expr.collectAll f bases ++ keywords.flatMap (fun k => k.value.collect f) ++ collectAll f body ++
      Expr.collectAll f decorators
  | .ret _ value => Expr.collectOption f value
  | .assign _ targets value => Expr.collectAll f targets ++ value.collect f
  | .augment _ target _ value => target.collect f ++ value.collect f
  | .declare _ target type value _ =>
    target.collect f ++ type.collect f ++ Expr.collectOption f value
  | .loop _ target iter body orelse =>
    target.collect f ++ iter.collect f ++ collectAll f body ++ collectAll f orelse
  | .cond _ test body orelse => test.collect f ++ collectAll f body ++ collectAll f orelse
  | .imports .. | .importsFrom .. | .global .. | .pass _ => []
  | .expr _ value => value.collect f
  | .other _ _ parts => collectAll f parts

/-- What `f` finds in the expressions of several statements. -/
def collectAll (f : Expr → List α) : List Stmt → List α
  | [] => []
  | s :: rest => collect f s ++ collectAll f rest

end

def firstWrite? (id : String) (s : Stmt) : Option Position := (s.collect (Expr.writes id)).head?

end Stmt

end DataDiagram.Source
