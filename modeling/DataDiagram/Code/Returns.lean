import DataDiagram.Code.Display
/-!
# Returns

A body is normal if a return only ends it, or ends both branches of the choice that ends it.
Statements after a return are dropped; a choice that returns in one branch only is refused.
-/

namespace DataDiagram

namespace Code

def endsWithRet : Code → Bool
  | block _ body =>
    match body.getLast? with
    | some s => s.isRet
    | none => false
  | _ => false

mutual

def returns : Code → Except CodeError Bool
  | block _ body => itemsReturn body
  | tuple items => itemsReturn items
  | datum (.str _) => .ok false
  | c => if c.truth then .error (.notIndexable c.kindName) else .ok false

/-- Whether every way through some statements ends with a return: only the last one counts. -/
def itemsReturn : List Code → Except CodeError Bool
  | [] => .ok false
  | [ret _ _] => .ok true
  | [cond _ _ a b] => do
    if ← returns a then returns b else return false
  | [_] => .ok false
  | _ :: rest => itemsReturn rest

end

mutual

def normalReturns : Code → Except CodeError Code
  | block r body => do
    let items ← normalItems body
    requireRef "Block" r
    return mkBlock r items
  | tuple items => do
    let _ ← normalItems items
    throw (tuple items).originError
  | datum (.str s) => .error (text s).originError
  | c => .error (.notSequence c.kindName)

/-- Statements with normal returns: what follows a return is dropped.  After a choice that returns
in one branch only, the statements that follow it form no block that could be joined to the other
branch. -/
def normalItems : List Code → Except CodeError (List Code)
  | [] => .ok []
  | ret r v :: _ => .ok [ret r v]
  | cond r t a b :: rest => do
    let a ← normalReturns a
    let b ← normalReturns b
    requireRef "If" r
    if a.endsWithRet && b.endsWithRet then return [cond r t a b]
    else if a.endsWithRet || b.endsWithRet then
      let _ ← normalItems rest
      throw (tuple rest).originError
    else
      let more ← normalItems rest
      return cond r t a b :: more
  | s :: rest => do
    let more ← normalItems rest
    return s :: more

end

end Code

end DataDiagram
