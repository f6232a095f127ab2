import DataDiagram.Code.Basic
/-!
# Displayed code

Code shown with the kind and the fields of every node, such as
`Op(op='+', children=(Name(id='x'), Const(val=1)))`.
-/

namespace DataDiagram

namespace Code

def anyClass : Datum := .named "type" "<class 'object'>"

mutual

def display : Code → String
  | datum d => d.display
  | tuple items => Datum.tupleText (displayAll items)
  | const _ v => Datum.recordText "Const" [("val", display v)]
  | op _ o cs => Datum.recordText "Op" [("op", display o), ("children", display cs)]
  | name _ id => Datum.recordText "Name" [("id", display id)]
  | attr _ v a => Datum.recordText "Attr" [("value", display v), ("attr", display a)]
  | item _ v i => Datum.recordText "Item" [("value", display v), ("item", display i)]
  | call _ f as => Datum.recordText "Call" [("func", display f), ("args", display as)]
  | block _ body => Datum.recordText "Block" [("body", Datum.tupleText (displayAll body))]
  | pass _ => Datum.recordText "Pass" []
  | assign _ t v o =>
    Datum.recordText "Assign" [("target", display t), ("value", display v), ("op", display o)]
  | cond _ t a b =>
    Datum.recordText "If" [("cond", display t), ("then", display a), ("orelse", display b)]
  | ret _ v => Datum.recordText "Return" [("value", display v)]
  | bareCall _ c => Datum.recordText "BareCall" [("call", display c)]
  | var _ n t s i =>
    Datum.recordText "Var"
      [("name", display n), ("type", display t), ("size", display s), ("init", display i)]
  | cls _ n fs ps =>
    Datum.recordText "Class"
      [("name", display n), ("cls", anyClass.display), ("fields", display fs),
       ("parents", display ps)]
  | func _ n as b gs ls =>
    Datum.recordText "Func"
      [("name", display n), ("args", display as), ("body", display b), ("globals", display gs),
       ("locals", display ls)]
  | bare _ kind => Datum.recordText kind.name []

def displayAll : List Code → List String
  | [] => []
  | c :: rest => display c :: displayAll rest

end

mutual

def isDisplayable : Code → Bool
  | datum d => d.isDisplayable
  | tuple items => allDisplayable items
  | const _ v | name _ v | ret _ v | bareCall _ v => isDisplayable v
  | op _ v w | attr _ v w | item _ v w | call _ v w => isDisplayable v && isDisplayable w
  | block _ body => allDisplayable body
  | assign _ u v w | cond _ u v w | cls _ u v w =>
    isDisplayable u && isDisplayable v && isDisplayable w
  | var _ n t s i => isDisplayable n && isDisplayable t && isDisplayable s && isDisplayable i
  | func _ n as b gs ls =>
    isDisplayable n && isDisplayable as && isDisplayable b && isDisplayable gs && isDisplayable ls
  | pass _ | bare _ _ => true

def allDisplayable : List Code → Bool
  | [] => true
  | c :: rest => isDisplayable c && allDisplayable rest

end

def displayed (c : Code) : Except CodeError String :=
  if c.isDisplayable then .ok c.display else .error .tooManyDigits

/-- The content of a field as it is printed: a text stands for itself, anything else is
displayed. -/
def shown : Code → Except CodeError String
  | text s => .ok s
  | c => c.displayed

def originError (c : Code) : CodeError :=
  match c.displayed with
  | .ok s => .notAnOrigin s
  | .error e => e

end Code

end DataDiagram
