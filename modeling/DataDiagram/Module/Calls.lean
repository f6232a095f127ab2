import DataDiagram.Code.Display
import DataDiagram.Module.Basic
/-!
# Reachable functions

The functions that a function calls, directly or through others.  A call may not stand under an
operator, may not lead back to a function that is being followed, and must name a function of the
module.
-/

namespace DataDiagram

/-- Follows a call from the functions that are being followed, to the names that it leads to. -/
abbrev Follow := (stack : List String) → (call callee : Code) → Except CodeError (List Datum)

def refuseCall : Follow := fun _ c _ => .error (c.error "forbidden call in expression")

namespace Datum

def text? : Datum → Option String
  | str s => some s
  | _ => Option.none

def isNone : Datum → Bool
  | none => true
  | _ => false

/-- The texts among some values. -/
def texts (ds : List Datum) : List String := ds.filterMap text?

theorem mem_texts {ds : List Datum} {s : String} : s ∈ texts ds ↔ str s ∈ ds := by
  rw [texts, List.mem_filterMap]
  constructor
  · rintro ⟨d, hd, hs⟩
    cases d <;> cases hs
    exact hd
  · exact fun h => ⟨str s, h, rfl⟩

/-- The names that are reached from an object that is taken for a call. -/
def reachedCall (follow : Follow) (stack : List String) (fields : List (String × Datum)) :
    Except CodeError (List Datum) :=
  match fields.lookup "func" with
  | Option.none => .error (.noMember "Call" "func")
  | some callee =>
    match callee.unhashable? with
    | some part => .error (.unhashable part)
    | Option.none => follow stack (.call Option.none (.datum callee) .nothing) (.datum callee)

mutual

/-- The names that are reached from an initial value.  An object is taken for a call, a function or
a sequence if its class has the name of one.  What is taken for a function is known by its name from
there on, whatever that is, and what its body holds is looked at; if the name is none, calls are
`forbidden` there. -/
def reached (follow : Follow) (forbidden : Bool) (stack : List String) :
    Datum → Except CodeError (List Datum)
  | tuple items => reachedAll follow forbidden stack items
  | record kind fields =>
    if kind = "Call" then
      if forbidden then .error (.noOrigin kind "__file__") else reachedCall follow stack fields
    else if kind = "Func" then
      match fields.lookup "name" with
      | Option.none => .error (.noMember kind "name")
      | some own =>
        match own.unhashable? with
        | some part => .error (.unhashable part)
        | Option.none => do
          let names ← reachedBody follow (forbidden || own.isNone)
              (stack ++ own.text?.toList) fields
          return own :: names
    else if kind = "tuple" then .error (.notSequence kind)
    else .ok []
  | _ => .ok []

def reachedAll (follow : Follow) (forbidden : Bool) (stack : List String) :
    List Datum → Except CodeError (List Datum)
  | [] => .ok []
  | d :: rest => do
    return (← reached follow forbidden stack d) ++ (← reachedAll follow forbidden stack rest)

/-- The names that are reached from the body of what is taken for a function. -/
def reachedBody (follow : Follow) (forbidden : Bool) (stack : List String) :
    List (String × Datum) → Except CodeError (List Datum)
  | [] => .error (.noMember "Func" "body")
  | (name, d) :: rest =>
    if name = "body" then
      match d with
      | tuple items | list items | set items => reachedAll follow forbidden stack items
      | dict entries => reachedKeys follow forbidden stack entries
      | d => if d.isIterable then .ok [] else .error (.notSequence d.kind)
    else reachedBody follow forbidden stack rest

def reachedKeys (follow : Follow) (forbidden : Bool) (stack : List String) :
    List (Datum × Datum) → Except CodeError (List Datum)
  | [] => .ok []
  | (k, _) :: rest => do
    return (← reached follow forbidden stack k) ++ (← reachedKeys follow forbidden stack rest)

end

end Datum

namespace Code

mutual

/-- The names that are reached from the objects in an initial value. -/
def reachedObjects (follow : Follow) (stack : List String) : Code → Except CodeError (List Datum)
  | datum (.record kind fields) => (Datum.record kind fields).reached follow false stack
  | tuple items => reachedObjectsAll follow stack items
  | _ => .ok []

def reachedObjectsAll (follow : Follow) (stack : List String) :
    List Code → Except CodeError (List Datum)
  | [] => .ok []
  | c :: rest => do
    return (← reachedObjects follow stack c) ++ (← reachedObjectsAll follow stack rest)

end

mutual

def reached (follow : Follow) (stack : List String) : Code → Except CodeError (List Datum)
  | datum _ | pass _ | bare _ _ => .ok []
  | tuple items => reachedAll follow stack items
  | const _ v | name _ v | ret _ v | bareCall _ v => reached follow stack v
  | op _ o cs => do
    return (← reached refuseCall stack o) ++ (← reached refuseCall stack cs)
  | call r f as => follow stack (call r f as) f
  | attr _ v w | item _ v w => do
    return (← reached follow stack v) ++ (← reached follow stack w)
  | block _ body => reachedAll follow stack body
  | assign _ u v w | cond _ u v w | cls _ u v w => do
    return (← reached follow stack u) ++ (← reached follow stack v) ++ (← reached follow stack w)
  | var _ n t s i => do
    return (← reached follow stack n) ++ (← reached follow stack t) ++
      (← reached follow stack s) ++ (← reached follow stack i) ++ (← reachedObjects follow stack i)
  | func _ n _ b _ _ => do
    let own ← n.shown
    return .str own :: (← reachedBody follow (stack ++ [own]) b)

def reachedBody (follow : Follow) (stack : List String) : Code → Except CodeError (List Datum)
  | block _ body => reachedAll follow stack body
  | tuple items => reachedAll follow stack items
  | datum (.str _) => .ok []
  | c => .error (.notSequence c.kindName)

def reachedAll (follow : Follow) (stack : List String) : List Code → Except CodeError (List Datum)
  | [] => .ok []
  | c :: rest => do return (← reached follow stack c) ++ (← reachedAll follow stack rest)

end

end Code

namespace Module

def recursionError (c : Code) (stack : List String) (name : String) : CodeError :=
  c.error ("forbidden recursive call: " ++ "->".intercalate stack ++ "=>" ++ name)

def reachedFrom (follow : Follow) (stack : List String) (f : Func) :
    Except CodeError (List Datum) := do
  return (← f.body.reached follow stack) ++
    (← Code.reachedAll follow stack ((f.globals ++ f.locals).map Var.code))

/-- Follows a call, `depth` bounding how deep calls can nest.  Every function that is followed is
put on the stack, so more calls than there are functions only nest if one of them is recursive. -/
def followAt (m : Module) : (depth : Nat) → Follow
  | 0 => fun stack c callee => do throw (recursionError c stack (← callee.shown))
  | depth + 1 => fun stack c callee => do
    match callee with
    | .text name =>
      if stack.contains name then throw (recursionError c stack name)
      else
        match Table.find? m.functions name with
        | none => throw (c.error "function not defined")
        | some f => return .str name :: (← reachedFrom (followAt m depth) (stack ++ [name]) f)
    | _ => throw (c.error "function not defined")

/-- Everything that is reached from a function, the function itself aside. -/
def visited (m : Module) (f : Func) : Except CodeError (List Datum) :=
  f.body.reachedBody (followAt m (m.functions.length + 2)) [f.name]

/-- The functions that are reached from a function, itself included, by their names. -/
def reachable (m : Module) (f : Func) : Except CodeError (List String) := do
  return (f.name :: Datum.texts (← m.visited f)).eraseDups

/-- What is reached from a function without being the name of one: names of objects that are taken
for functions, and that are no texts. -/
def strangers (m : Module) (f : Func) : Except CodeError (List Datum) := do
  return (← m.visited f).filter fun d => d.text?.isNone

end Module

end DataDiagram
