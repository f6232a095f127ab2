import DataDiagram.Static.Interpolation
/-!
# Operators on static values

Arithmetic, sequences, sets and kinds.
-/

namespace DataDiagram.Static

open Source (BinaryOp UnaryOp)

namespace Operator

def text : BinaryOp → String
  | .add => "+"
  | .sub => "-"
  | .mult => "*"
  | .matMult => "@"
  | .div => "/"
  | .mod => "%"
  | .pow => "** or pow()"
  | .leftShift => "<<"
  | .rightShift => ">>"
  | .bitOr => "|"
  | .bitXor => "^"
  | .bitAnd => "&"
  | .floorDiv => "//"

def augmentedText : BinaryOp → String
  | .pow => "**="
  | op => text op ++ "="

def unaryText : UnaryOp → String
  | .invert => "~"
  | .logicalNot => "not"
  | .plus => "+"
  | .minus => "-"

/-! ### Numbers -/

def onInts (f : Int → Int → Except NumberError Int) : Number → Number → Except NumberError Number
  | .int m, .int n => do return .int (← f m n)
  | _, _ => .error .unsupported

def arithmetic : BinaryOp → Number → Number → Except NumberError Number
  | .add => Number.add
  | .sub => Number.sub
  | .mult => Number.mul
  | .div => Number.div
  | .floorDiv => Number.floorDiv
  | .mod => Number.mod
  | .pow => Number.pow
  | .leftShift => onInts Number.shiftLeft
  | .rightShift => onInts Number.shiftRight
  | .bitOr => onInts fun m n => .ok (Number.bitwise (· || ·) m n)
  | .bitXor => onInts fun m n => .ok (Number.bitwise (· != ·) m n)
  | .bitAnd => onInts fun m n => .ok (Number.bitwise (· && ·) m n)
  | .matMult => fun _ _ => .error .unsupported

def boolBinary (op : BinaryOp) (a b : Bool) : Option Value :=
  match op with
  | .bitOr => some (.bool (a || b))
  | .bitXor => some (.bool (a != b))
  | .bitAnd => some (.bool (a && b))
  | _ => none

def numberBinary? (op : BinaryOp) (x y : Number) : Eval (Option Value) := do
  match arithmetic op x y with
  | .ok n => return some (← Eval.ofNumber n)
  | .error .unsupported => return none
  | .error e => throw (.datum (.number e))

/-! ### Sequences -/

/-- A sequence `n` times; it stays as it is if it is taken once. -/
def repeatSequence (v : Value) (n : Int) : Eval (Option Value) := do
  let check (isText : Bool) (length : Nat) : Eval Unit :=
    match Datum.checkRepeat isText length n with
    | .ok () => pure ()
    | .error e => throw (.datum e)
  match v with
  | .str _ s => do
    check true s.length
    if n == 1 then return some v
    else return some (← Eval.ofString (String.ofList (Datum.repeated n s.toList)))
  | .bytes _ s => do
    check false s.length
    if n == 1 then return some v
    else return some (← Eval.ofBytes (String.ofList (Datum.repeated n s.toList)))
  | .tuple _ items => do
    check false items.length
    if n == 1 then return some v else return some (← Eval.newTuple (Datum.repeated n items))
  | .list addr => do
    let items ← Eval.listItems addr
    check false items.length
    return some (← Eval.newList (Datum.repeated n items))
  | _ => return none

def isSequence : Value → Bool
  | .str .. | .bytes .. | .tuple .. | .list _ => true
  | _ => false

def repeat? (v w : Value) : Eval (Option Value) := do
  let times (sequence count : Value) : Eval (Option Value) := do
    match count.index? with
    | some n => repeatSequence sequence n
    | none => throw (.datum (.notRepeatable (← Eval.kindName count)))
  if isSequence v then times v w
  else if isSequence w then times w v
  else return none

def concat? (v w : Value) : Eval (Option Value) := do
  match v, w with
  | .str _ s, .str _ t =>
    if s.isEmpty then return some w
    else if t.isEmpty then return some v
    else return some (← Eval.ofString (s ++ t))
  | .bytes _ s, .bytes _ t =>
    if s.isEmpty then return some w
    else if t.isEmpty then return some v
    else return some (← Eval.ofBytes (s ++ t))
  | .tuple _ xs, .tuple _ ys =>
    if xs.isEmpty then return some w
    else if ys.isEmpty then return some v
    else return some (← Eval.newTuple (xs ++ ys))
  | .list a, .list b => do
    return some (← Eval.newList ((← Eval.listItems a) ++ (← Eval.listItems b)))
  | .bytes .., w => throw (.datum (.notConcatenableBytes (← Eval.kindName w)))
  | .str .., w | .tuple .., w | .list _, w =>
    throw (.datum (.notConcatenable (← Eval.kindName v) (← Eval.kindName w)))
  | _, _ => return none

/-! ### Sets, dictionaries and kinds -/

def filterAmong (keep : Bool) (ys : List Value) : List Value → Eval (List Value)
  | [] => return []
  | x :: rest => do
    let more ← filterAmong keep ys rest
    if (← among x ys) == keep then return x :: more else return more

def setBinary? (op : BinaryOp) (xs ys : List Value) : Eval (Option (List Value)) := do
  match op with
  | .bitOr => return some (xs ++ (← filterAmong false xs ys))
  | .bitAnd => return some (← filterAmong true ys xs)
  | .sub => return some (← filterAmong false ys xs)
  | .bitXor => return some ((← filterAmong false ys xs) ++ (← filterAmong false xs ys))
  | _ => return none

def isKind : Value → Bool
  | .none | .cls _ | .builtinClass _ | .alias .. | .union .. => true
  | _ => false

def kindMembers : Value → List Value
  | .union _ members => members
  | v => [v]

def unionOf (v w : Value) : Eval Value := do
  let put (acc : List Value) (m : Value) : Eval (List Value) := do
    if ← among m acc then return acc else return acc ++ [m]
  match ← (kindMembers v ++ kindMembers w).foldlM put [] with
  | [m] => return m
  | members => return .union (← Eval.fresh) members

def otherBinary? (op : BinaryOp) (v w : Value) : Eval (Option Value) := do
  match v, w with
  | .set a, .set b => do
    match ← setBinary? op (← Eval.setItems a) (← Eval.setItems b) with
    | some items => return some (.set (← Eval.alloc (.set items)))
    | none => return none
  | .dict a, .dict b =>
    if op == .bitOr then
      return some (← newDict ((← Eval.dictEntries a) ++ (← Eval.dictEntries b)))
    else return none
  | v, w =>
    match op with
    | .add => concat? v w
    | .mult => repeat? v w
    | .mod =>
      match v with
      | .str _ s => do return some (← Interpolation.interpolate s w)
      | _ => return none
    | .bitOr =>
      let isNone (x : Value) : Bool := identical x .none
      if isKind v && isKind w && !(isNone v && isNone w) then return some (← unionOf v w)
      else return none
    | _ => return none

def binary? (op : BinaryOp) (v w : Value) : Eval (Option Value) := do
  let other : Eval (Option Value) := otherBinary? op v w
  if v.isFormula || w.isFormula then
    match Algebra.binary op v w with
    | some r => return some r
    | none => other
  else
    match v, w with
    | .bool a, .bool b =>
      match boolBinary op a b with
      | some r => return some r
      | none => numberBinary? op (.int (if a then 1 else 0)) (.int (if b then 1 else 0))
    | v, w =>
      match v.number?, w.number? with
      | some x, some y => numberBinary? op x y
      | _, _ => other

def binaryAs (name : String) (op : BinaryOp) (v w : Value) : Eval Value := do
  match ← binary? op v w with
  | some r => return r
  | none => throw (.datum (.badOperands name (← Eval.kindName v) (← Eval.kindName w)))

def binary (op : BinaryOp) (v w : Value) : Eval Value := binaryAs (text op) op v w

def unary (op : UnaryOp) (v : Value) : Eval Value := do
  let refuse : Eval Value := do throw (.badOperand ("unary " ++ unaryText op) (← Eval.kindName v))
  match op, v with
  | .logicalNot, v => return .bool (!(← Eval.truth v))
  | op, .formula f =>
    match Algebra.unary op f with
    | some r => return r
    | none => refuse
  | .plus, .bool b => return .int 0 (if b then 1 else 0)
  | .plus, v => if v.number?.isSome then return v else refuse
  | .minus, v =>
    match v.number? with
    | some n => Eval.ofNumber n.neg
    | none => refuse
  | .invert, v =>
    match v.int? with
    | some n => Eval.ofInt (-n - 1)
    | none => refuse

/-- A value updated by another: lists and sets change, anything else is replaced. -/
def augment (op : BinaryOp) (v w : Value) : Eval Value := do
  match op, v, w with
  | .add, .list addr, w => do
    let more ← Eval.itemList w
    Eval.store addr (.list ((← Eval.listItems addr) ++ more))
    return v
  | op, .set a, .set b => do
    match ← setBinary? op (← Eval.setItems a) (← Eval.setItems b) with
    | some items =>
      Eval.store a (.set items)
      return v
    | none => binaryAs (augmentedText op) op v w
  | op, v, w => binaryAs (augmentedText op) op v w

end Operator

end DataDiagram.Static
