import DataDiagram.Source.Tree
/-!
# Targets

The expressions that can be assigned to or deleted.
-/

namespace DataDiagram.Source

namespace Expr

mutual

/-- The target that an expression is: names, fields, elements, and tuples and lists of targets.
When assigned to, a target can take the rest of the values. -/
def asTarget? (usage : Usage) : Expr → Option Expr
  | name p id _ => some (name p id usage)
  | field p v a _ => some (field p v a usage)
  | subscript p v i _ => some (subscript p v i usage)
  | tuple p items _ => do return tuple p (← asTargets? usage items) usage
  | list p items _ => do return list p (← asTargets? usage items) usage
  | starred p v _ =>
    if usage == .store then do return starred p (← asTarget? usage v) usage else none
  | _ => none

def asTargets? (usage : Usage) : List Expr → Option (List Expr)
  | [] => some []
  | e :: rest => do
    let first ← asTarget? usage e
    let more ← asTargets? usage rest
    return first :: more

end

def asSingleTarget? : Expr → Option Expr
  | name p id _ => some (name p id .store)
  | field p v a _ => some (field p v a .store)
  | subscript p v i _ => some (subscript p v i .store)
  | _ => none

end Expr

end DataDiagram.Source
