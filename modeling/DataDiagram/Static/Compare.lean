import DataDiagram.Static.Algebra
/-!
# Identity, equality, order and membership

Values that are one and the same count as equal within others, even if they are not equal alone.
-/

namespace DataDiagram.Static

open Source (CompareOp)

def compareText : CompareOp → String
  | .eq => "=="
  | .notEq => "!="
  | .lt => "<"
  | .ltE => "<="
  | .gt => ">"
  | .gtE => ">="
  | .same => "is"
  | .notSame => "is not"
  | .member => "in"
  | .notMember => "not in"

def identical : Value → Value → Bool
  | .none, .none => true
  | .ellipsis, .ellipsis => true
  | .notImplemented, .notImplemented => true
  | .bool a, .bool b => a == b
  | .int i m, .int j n => i == j && m == n
  | .float i x, .float j y => i == j && x == y
  | .complex i _, .complex j _ => i == j
  | .str i s, .str j t => i == j && s == t
  | .bytes i s, .bytes j t => i == j && s == t
  | .tuple i _, .tuple j _ => i == j
  | .range i .., .range j .. => i == j
  | .slice i .., .slice j .. => i == j
  | .alias i .., .alias j .. => i == j
  | .union i _, .union j _ => i == j
  | .list a, .list b | .set a, .set b | .dict a, .dict b | .iterator _ a, .iterator _ b
  | .object a, .object b | .cls a, .cls b | .function a, .function b => a == b
  | .builtinClass s, .builtinClass t | .builtin s, .builtin t | .library s, .library t
  | .operation s, .operation t => s == t
  | .formula f, .formula g => f.same g
  | .plain k s, .plain l t => k == l && s == t
  | _, _ => false

/-! ### Equality -/

def allEqual (eq : Value → Value → Eval Bool) : List Value → List Value → Eval Bool
  | [], [] => return true
  | v :: vs, w :: ws => do
    if identical v w || (← eq v w) then allEqual eq vs ws else return false
  | _, _ => return false

def amongBy (eq : Value → Value → Eval Bool) (v : Value) : List Value → Eval Bool
  | [] => return false
  | w :: rest => do
    if identical v w || (← eq w v) then return true else amongBy eq v rest

def entryBy (eq : Value → Value → Eval Bool) (key : Value) :
    List (Value × Value) → Eval (Option Value)
  | [] => return none
  | (k, v) :: rest => do
    if identical k key || (← eq k key) then return some v else entryBy eq key rest

def allAmongBy (eq : Value → Value → Eval Bool) (ws : List Value) : List Value → Eval Bool
  | [] => return true
  | v :: rest => do
    if ← amongBy eq v ws then allAmongBy eq ws rest else return false

def entriesAmongBy (eq : Value → Value → Eval Bool) (ws : List (Value × Value)) :
    List (Value × Value) → Eval Bool
  | [] => return true
  | (k, v) :: rest => do
    match ← entryBy eq k ws with
    | some w => if identical v w || (← eq v w) then entriesAmongBy eq ws rest else return false
    | none => return false

def fieldValues (cls : Nat) (fields : List (String × Value)) : Eval (List Value) := do
  let names := ((← Eval.classInfo cls).fields.getD []).map Field.name
  return names.map fun f => (fields.lookup f).getD .none

/-- Whether two values are equal, looking at most `depth` levels into the store. -/
def equalWithin : (depth : Nat) → Value → Value → Eval Bool
  | 0, _, _ => throw .recursionLimit
  | depth + 1, v, w => do
    match v.number?, w.number? with
    | some x, some y => return x.equal y
    | _, _ =>
      match v, w with
      | .str _ s, .str _ t => return s == t
      | .bytes _ s, .bytes _ t => return s == t
      | .tuple _ xs, .tuple _ ys =>
        if xs.length == ys.length then allEqual (equalWithin depth) xs ys else return false
      | .list a, .list b => do
        let xs ← Eval.listItems a
        let ys ← Eval.listItems b
        if xs.length == ys.length then allEqual (equalWithin depth) xs ys else return false
      | .set a, .set b => do
        let xs ← Eval.setItems a
        let ys ← Eval.setItems b
        if xs.length == ys.length then allAmongBy (equalWithin depth) ys xs else return false
      | .dict a, .dict b => do
        let xs ← Eval.dictEntries a
        let ys ← Eval.dictEntries b
        if xs.length == ys.length then entriesAmongBy (equalWithin depth) ys xs else return false
      | .range _ a b c, .range _ a' b' c' => return Datum.sameRange a b c a' b' c'
      | .slice _ a b c, .slice _ a' b' c' => allEqual (equalWithin depth) [a, b, c] [a', b', c']
      | .alias _ o xs, .alias _ p ys => allEqual (equalWithin depth) (o :: xs) (p :: ys)
      | .union _ xs, .union _ ys =>
        if xs.length == ys.length then allAmongBy (equalWithin depth) ys xs else return false
      | .object a, .object b =>
        match ← Eval.load a, ← Eval.load b with
        | .record c xs, .record d ys =>
          if c == d && (← Eval.classInfo c).fields.isSome then do
            allEqual (equalWithin depth) (← fieldValues c xs) (← fieldValues d ys)
          else return a == b
        | _, _ => return a == b
      | .method a f, .method b g => return identical a b && f == g
      | v, w =>
        if v.isFormula || w.isFormula then return Algebra.equal v w else return identical v w

def equal (v w : Value) : Eval Bool := equalWithin Heap.maxDepth v w

def among (v : Value) (ws : List Value) : Eval Bool := amongBy equal v ws

/-! ### Members of sets and keys of dictionaries -/

/-- Fails if a value cannot be a member of a set, looking at most `depth` levels into it. -/
def requireHashableWithin : (depth : Nat) → Value → Eval Unit
  | 0, _ => throw .recursionLimit
  | depth + 1, v => do
    match v with
    | .list _ | .set _ | .dict _ | .slice .. => throw (.unhashable (← Eval.kindName v))
    | .tuple _ items => items.forM (requireHashableWithin depth)
    | .object addr =>
      match ← Eval.load addr with
      | .record cls _ =>
        let info ← Eval.classInfo cls
        if info.fields.isSome then throw (.unhashable info.name)
      | _ => pure ()
    | _ => pure ()

def requireHashable (v : Value) : Eval Unit := requireHashableWithin Heap.maxDepth v

def putMember (members : List Value) (v : Value) : Eval (List Value) := do
  requireHashable v
  if ← among v members then return members else return members ++ [v]

def newSet (items : List Value) : Eval Value := do
  return .set (← Eval.alloc (.set (← items.foldlM putMember [])))

def putEntry (key v : Value) : List (Value × Value) → Eval (List (Value × Value))
  | [] => return [(key, v)]
  | (k, w) :: rest => do
    if identical k key || (← equal k key) then return (k, v) :: rest
    else return (k, w) :: (← putEntry key v rest)

def newDict (entries : List (Value × Value)) : Eval Value := do
  let put (acc : List (Value × Value)) (e : Value × Value) : Eval (List (Value × Value)) := do
    requireHashable e.1
    putEntry e.1 e.2 acc
  return .dict (← Eval.alloc (.dict (← entries.foldlM put [])))

/-! ### Order -/

def orderFits (op : CompareOp) : Ordering → Bool
  | .lt => op == .lt || op == .ltE
  | .eq => op == .ltE || op == .gtE
  | .gt => op == .gt || op == .gtE

/-- The first items in which two lists differ, `none` if they differ in length only. -/
def firstDifference (eq : Value → Value → Eval Bool) : List Value → List Value →
    Eval (Option (Value × Value))
  | v :: vs, w :: ws => do
    if identical v w || (← eq v w) then firstDifference eq vs ws else return some (v, w)
  | _, _ => return none

def setsOrdered (op : CompareOp) (xs ys : List Value) : Eval Bool := do
  match op with
  | .lt => if xs.length < ys.length then allAmongBy equal ys xs else return false
  | .ltE => allAmongBy equal ys xs
  | .gt => if ys.length < xs.length then allAmongBy equal xs ys else return false
  | _ => allAmongBy equal xs ys

/-- Whether two values are in order, looking at most `depth` levels into the store.  The outcome may
be a formula. -/
def orderedWithin (op : CompareOp) : (depth : Nat) → Value → Value → Eval Value
  | 0, _, _ => throw .recursionLimit
  | depth + 1, v, w => do
    let refuse : Eval Value := do
      throw (.datum (.notOrdered (compareText op) (← Eval.kindName v) (← Eval.kindName w)))
    let sequences (xs ys : List Value) : Eval Value := do
      match ← firstDifference equal xs ys with
      | some (x, y) => orderedWithin op depth x y
      | none => return .bool (orderFits op (compare xs.length ys.length))
    match v.number?, w.number? with
    | some x, some y =>
      if x.isComplex || y.isComplex then refuse
      else return .bool ((x.compare? y).any (orderFits op))
    | _, _ =>
      match v, w with
      | .str _ s, .str _ t | .bytes _ s, .bytes _ t =>
        return .bool (orderFits op (Text.compareTexts s t))
      | .tuple _ xs, .tuple _ ys => sequences xs ys
      | .list a, .list b => do sequences (← Eval.listItems a) (← Eval.listItems b)
      | .set a, .set b => do
        return .bool (← setsOrdered op (← Eval.setItems a) (← Eval.setItems b))
      | v, w =>
        if v.isFormula || w.isFormula then
          match Algebra.relate op v w with
          | some r => return r
          | none => refuse
        else refuse

def ordered (op : CompareOp) (v w : Value) : Eval Value := orderedWithin op Heap.maxDepth v w

def isOrdered (op : CompareOp) (v w : Value) : Eval Bool := do Eval.truth (← ordered op v w)

/-! ### Membership -/

def isPart {α : Type} [BEq α] (xs : List α) : List α → Bool
  | [] => xs.isEmpty
  | y :: ys => xs.isPrefixOf (y :: ys) || isPart xs ys

def foundIn (v : Value) (items : Items) : Eval Bool :=
  items.visit (fun (_ : Bool) w => do
    if identical w v || (← equal w v) then return (true, false) else return (false, true)) false

def member (v w : Value) : Eval Bool := do
  match w with
  | .str _ t =>
    match v with
    | .str _ s => return isPart s.toList t.toList
    | v =>
      throw (.refused .type ("'in <string>' requires string as left operand, not " ++
        (← Eval.kindName v)))
  | .bytes _ t =>
    match v, v.int? with
    | .bytes _ s, _ => return isPart s.toList t.toList
    | _, some n =>
      if 0 ≤ n && n < 256 then return t.toList.any fun c => (c.toNat : Int) == n
      else throw (.refused .value "byte must be in range(0, 256)")
    | v, none =>
      throw
        (.refused .type ("a bytes-like object is required, not '" ++ (← Eval.kindName v) ++ "'"))
  | .range _ a b c =>
    match v.int? with
    | some n => return Datum.rangeContains a b c n
    | none => foundIn v (← Eval.items w)
  | .set addr => do
    requireHashable v
    among v (← Eval.setItems addr)
  | .dict addr => do
    requireHashable v
    return (← entryBy equal v (← Eval.dictEntries addr)).isSome
  | w =>
    match ← Eval.items? w with
    | some items => foundIn v items
    | none => throw (.noMembers (← Eval.kindName w))

def compareValues (op : CompareOp) (v w : Value) : Eval Value := do
  match op with
  | .eq => return .bool (← equal v w)
  | .notEq => return .bool (!(← equal v w))
  | .same => return .bool (identical v w)
  | .notSame => return .bool (!identical v w)
  | .member => return .bool (← member v w)
  | .notMember => return .bool (!(← member v w))
  | op => ordered op v w

end DataDiagram.Static
