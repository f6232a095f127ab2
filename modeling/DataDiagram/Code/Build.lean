import DataDiagram.Code.Display
/-!
# Nodes from fields

A node is taken apart into its named fields and put together from them.  Fields that a kind does not
have are refused, and so is a kind that lacks a field it needs.
-/

namespace DataDiagram

/-- The kinds of nodes. -/
inductive NodeKind
  | const
  | op
  | name
  | attr
  | item
  | call
  | block
  | pass
  | assign
  | cond
  | ret
  | bareCall
  | var
  | cls
  | func
  | bare (kind : AbstractKind)
  deriving DecidableEq

namespace NodeKind

def all : List NodeKind :=
  [const, op, name, attr, item, call, block, pass, assign, cond, ret, bareCall, var, cls, func,
   bare .code, bare .expr, bare .lookup, bare .compound, bare .stmt, bare .decl]

def text : NodeKind → String
  | const => "Const"
  | op => "Op"
  | name => "Name"
  | attr => "Attr"
  | item => "Item"
  | call => "Call"
  | block => "Block"
  | pass => "Pass"
  | assign => "Assign"
  | cond => "If"
  | ret => "Return"
  | bareCall => "BareCall"
  | var => "Var"
  | cls => "Class"
  | func => "Func"
  | bare kind => kind.name

def ofText? (s : String) : Option NodeKind := all.find? fun k => k.text == s

def required : NodeKind → List String
  | const => ["val"]
  | op => ["op", "children"]
  | name => ["id"]
  | attr => ["value", "attr"]
  | item => ["value", "item"]
  | call => ["func", "args"]
  | block => ["body"]
  | assign => ["target", "value"]
  | cond => ["cond", "then", "orelse"]
  | bareCall => ["call"]
  | var => ["name", "type", "size", "init"]
  | cls => ["name", "cls"]
  | func => ["name", "args", "body", "globals", "locals"]
  | ret | pass | bare _ => []

def optional : NodeKind → List (String × Code)
  | assign => [("op", .nothing)]
  | ret => [("value", .nothing)]
  | cls => [("fields", .tuple []), ("parents", .tuple [])]
  | _ => []

end NodeKind

namespace Code

def kind? : Code → Option NodeKind
  | datum _ | tuple _ => none
  | const .. => some .const
  | op .. => some .op
  | name .. => some .name
  | attr .. => some .attr
  | item .. => some .item
  | call .. => some .call
  | block .. => some .block
  | pass .. => some .pass
  | assign .. => some .assign
  | cond .. => some .cond
  | ret .. => some .ret
  | bareCall .. => some .bareCall
  | var .. => some .var
  | cls .. => some .cls
  | func .. => some .func
  | bare _ kind => some (.bare kind)

def fields : Code → List (String × Code)
  | const _ v => [("val", v)]
  | op _ o cs => [("op", o), ("children", cs)]
  | name _ id => [("id", id)]
  | attr _ v a => [("value", v), ("attr", a)]
  | item _ v i => [("value", v), ("item", i)]
  | call _ f as => [("func", f), ("args", as)]
  | block _ body => [("body", tuple body)]
  | assign _ t v o => [("target", t), ("value", v), ("op", o)]
  | cond _ t a b => [("cond", t), ("then", a), ("orelse", b)]
  | ret _ v => [("value", v)]
  | bareCall _ c => [("call", c)]
  | var _ n t s i => [("name", n), ("type", t), ("size", s), ("init", i)]
  | cls _ n fs ps => [("name", n), ("cls", datum anyClass), ("fields", fs), ("parents", ps)]
  | func _ n as b gs ls =>
    [("name", n), ("args", as), ("body", b), ("globals", gs), ("locals", ls)]
  | datum _ | tuple _ | pass _ | bare _ _ => []

def assemble (kind : NodeKind) (ref : Option Origin) (get : String → Code) :
    Except CodeError Code :=
  match kind with
  | .const => .ok (const ref (get "val"))
  | .op => .ok (op ref (get "op") (get "children"))
  | .name => .ok (name ref (get "id"))
  | .attr => .ok (attr ref (get "value") (get "attr"))
  | .item => .ok (item ref (get "value") (get "item"))
  | .call => .ok (call ref (get "func") (get "args"))
  | .block => do return mkBlock ref (← (get "body").items)
  | .pass => .ok (pass ref)
  | .assign => .ok (assign ref (get "target") (get "value") (get "op"))
  | .cond => .ok (cond ref (get "cond") (get "then") (get "orelse"))
  | .ret => .ok (ret ref (get "value"))
  | .bareCall => .ok (bareCall ref (get "call"))
  | .var => .ok (var ref (get "name") (get "type") (get "size") (get "init"))
  | .cls => .ok (cls ref (get "name") (get "fields") (get "parents"))
  | .func => .ok (func ref (get "name") (get "args") (get "body") (get "globals") (get "locals"))
  | .bare k => .ok (bare ref k)

def fieldOf (fields : List (String × Code)) (field : String) : Code :=
  match fields.reverse.find? fun f => f.1 == field with
  | some f => f.2
  | none => nothing

def build (kind : NodeKind) (ref : Option Origin) (fields : List (String × Code)) :
    Except CodeError Code :=
  let known := kind.required ++ kind.optional.map Prod.fst
  match fields.find? fun f => !known.contains f.1 with
  | some f => .error (.unknownField kind.text f.1)
  | none =>
    let missing := kind.required.filter fun n => !fields.any fun f => f.1 == n
    if missing.isEmpty then assemble kind ref (fieldOf (kind.optional ++ fields))
    else .error (.missingFields kind.text missing)

/-- What a new node takes its origin from. -/
inductive Source
  | node (c : Code)
  | parts (c : Code)
  | values (ds : List Datum)

def Source.origin : Source → Except CodeError (Option Origin)
  | node c | parts c => do
    requireRef c.kindName c.ref
    return c.ref
  | values [d] => .error (.notAnOrigin d.display)
  | values ds => .error (.notOrigins (Datum.tuple ds).display)

def make (kind : NodeKind) (source : Source) (fields : List (String × Code)) :
    Except CodeError Code := do
  match source with
  | .parts c => requireRef c.kindName c.ref
  | _ => pure ()
  if fields.any fun f => f.1 == "cls" then throw .classRebuilt
  let ref := match source.origin with
    | .ok r => r
    | .error _ => none
  let made ← build kind ref fields
  let _ ← source.origin
  return made

def set (c : Code) (changes : List (String × Code)) : Except CodeError Code :=
  match c.kind? with
  | none => .error (.notCallable c.kindName)
  | some kind => make kind (.node c) (c.fields ++ changes)

def add (c : Code) (more : List Code) : Except CodeError Code :=
  match c with
  | block r body => do
    requireRef "Block" r
    return mkBlock r (body ++ more)
  | c => .error (.notExtensible c.kindName)

def elementAt (items : List Code) (index : Int) : Except CodeError Code :=
  let i := if 0 ≤ index then index else index + items.length
  match (if 0 ≤ i then items[i.toNat]? else none) with
  | some c => .ok c
  | none => .error .noSuchItem

def get (c index : Code) : Except CodeError Code :=
  match c, index with
  | block _ body, datum d =>
    match d.int? with
    | some i => elementAt body i
    | none => .error (.notAnIndex d.kind)
  | block .., index => .error (.notAnIndex index.kindName)
  | c, _ => .error (.notIndexable c.kindName)

end Code

end DataDiagram
