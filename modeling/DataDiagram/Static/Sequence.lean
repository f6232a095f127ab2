import DataDiagram.Static.Compare
/-!
# Elements and parts

What values hold at an index, under a key or between two bounds.
-/

namespace DataDiagram.Static

def position? (length : Nat) (i : Int) : Option Nat :=
  let j := if i < 0 then i + length else i
  if 0 ≤ j && j < length then some j.toNat else none

def clampBound (length : Nat) (step : Int) (i : Int) : Int :=
  let j := if i < 0 then i + length else i
  let low : Int := if step < 0 then -1 else 0
  let high : Int := if step < 0 then (length : Int) - 1 else length
  if j < low then low else if high < j then high else j

def sliceBounds (length : Nat) (lower upper step : Option Int) : Eval (Int × Int × Int) := do
  let k := step.getD 1
  if k == 0 then throw .zeroStep
  else
    let start := match lower with
      | some i => clampBound length k i
      | none => if k < 0 then (length : Int) - 1 else 0
    let stop := match upper with
      | some i => clampBound length k i
      | none => if k < 0 then -1 else length
    return (start, stop, k)

def pick {α : Type} (items : List α) (start stop step : Int) : List α :=
  (Datum.rangeItems start stop step).filterMap fun i => items[i.toNat]?

def isWhole (length : Nat) (bounds : Int × Int × Int) : Bool := bounds == (0, (length : Int), 1)

def bound? : Value → Eval (Option Int)
  | .none => return none
  | v =>
    match v.index? with
    | some n => return some n
    | none => throw .badBound

def sliceOf (v : Value) (lower upper step : Option Int) : Eval Value := do
  match v with
  | .tuple _ items =>
    let (start, stop, k) ← sliceBounds items.length lower upper step
    if isWhole items.length (start, stop, k) then return v
      else Eval.newTuple (pick items start stop k)
  | .list addr => do
    let items ← Eval.listItems addr
    let (start, stop, k) ← sliceBounds items.length lower upper step
    Eval.newList (pick items start stop k)
  | .str _ s =>
    let cs := s.toList
    let (start, stop, k) ← sliceBounds cs.length lower upper step
    if isWhole cs.length (start, stop, k) then return v
    else Eval.ofString (String.ofList (pick cs start stop k))
  | .bytes _ s =>
    let cs := s.toList
    let (start, stop, k) ← sliceBounds cs.length lower upper step
    if isWhole cs.length (start, stop, k) then return v
    else Eval.ofBytes (String.ofList (pick cs start stop k))
  | .range _ a b c => do
    let (start, stop, k) ← sliceBounds (Datum.rangeLength a b c) lower upper step
    Eval.newRange (a + c * start) (a + c * stop) (c * k)
  | v => throw (.notSubscriptable (← Eval.kindName v))

def elementAt {α : Type} (items : List α) (sequence : String) (n : Int) : Eval α :=
  if Datum.maxCount < n || n < -Datum.maxCount - 1 then throw .indexTooLarge
  else
    match (position? items.length n).bind fun j => items[j]? with
    | some x => return x
    | none => throw (.indexRange sequence)

def elementOf (v : Value) (n : Int) : Eval Value := do
  match v with
  | .tuple _ items => elementAt items "tuple" n
  | .list addr => do elementAt (← Eval.listItems addr) "list" n
  | .range _ a b c =>
    match position? (Datum.rangeLength a b c) n with
    | some j => Eval.ofInt (a + c * j)
    | none => throw (.indexRange "range object")
  | .str _ s => do Eval.ofString (String.ofList [← elementAt s.toList "string" n])
  | .bytes _ s => do return .int 0 (← elementAt s.toList "" n).toNat
  | v => throw (.notSubscriptable (← Eval.kindName v))

def isIndexable : Value → Bool
  | .str .. | .bytes .. | .tuple .. | .list _ | .range .. => true
  | _ => false

def isGeneric (name : String) : Bool :=
  ["list", "tuple", "dict", "set", "frozenset", "type", "enumerate"].contains name

def aliasArguments : Value → List Value
  | .tuple _ items => items
  | v => [v]

def element (v i : Value) : Eval Value := do
  match v with
  | .builtinClass name =>
    if isGeneric name then return .alias (← Eval.fresh) v (aliasArguments i)
    else throw (.classNotSubscriptable name)
  | .cls addr => do throw (.classNotSubscriptable (← Eval.classInfo addr).name)
  | .alias .. => do throw (.notGeneric (← Eval.display v))
  | .dict addr => do
    requireHashable i
    match ← entryBy equal i (← Eval.dictEntries addr) with
    | some w => return w
    | none => throw (.noKey (← Eval.display i))
  | .formula (.apply .tuple fs) =>
    match i.index? with
    | some n => do return .formula (← elementAt fs "tuple" n)
    | none => throw (.badIndex "tuple" (← Eval.kindName i))
  | v =>
    if isIndexable v then
      match i with
      | .slice _ a b c => do
        let step ← bound? c
        let lower ← bound? a
        let upper ← bound? b
        sliceOf v lower upper step
      | i =>
        match i.index?, v with
        | some n, v => elementOf v n
        | none, .str .. => throw (.badTextIndex (← Eval.kindName i))
        | none, .bytes .. => throw (.badIndex "byte" (← Eval.kindName i))
        | none, v => throw (.badIndex (← Eval.kindName v) (← Eval.kindName i))
    else throw (.notSubscriptable (← Eval.kindName v))

def setElement (v i w : Value) : Eval Unit := do
  match v with
  | .list addr =>
    let items ← Eval.listItems addr
    match i.index? with
    | some n =>
      if Datum.maxCount < n || n < -Datum.maxCount - 1 then throw .indexTooLarge
      else
        match position? items.length n with
        | some j => Eval.store addr (.list (items.set j w))
        | none => throw (.refused .index "list assignment index out of range")
    | none => throw (.badIndex "list" (← Eval.kindName i))
  | .dict addr => do
    requireHashable i
    Eval.store addr (.dict (← putEntry i w (← Eval.dictEntries addr)))
  | v => throw (.noItemAssignment (← Eval.kindName v))

def lengthOf (v : Value) : Eval Int := do
  match v with
  | .tuple _ items => return items.length
  | .str _ s | .bytes _ s => return s.length
  | .list addr => do return (← Eval.listItems addr).length
  | .set addr => do return (← Eval.setItems addr).length
  | .dict addr => do return (← Eval.dictEntries addr).length
  | .range _ a b c =>
    let n : Int := Datum.rangeLength a b c
    if Datum.maxCount < n then throw .lengthTooLarge else return n
  | .formula (.apply .tuple fs) => return fs.length
  | v => throw (.noLength (← Eval.kindName v))

end DataDiagram.Static
