import DataDiagram.Static.Value
/-!
# Constants

The constants of a piece of source.  Equal constants of one piece are one and the same value, also
those that are computed from other constants, as long as they are small.
-/

namespace DataDiagram.Static

open Source (Expr BinaryOp UnaryOp)

mutual

def sameConstant : Datum → Datum → Bool
  | .none, .none => true
  | .ellipsis, .ellipsis => true
  | .bool a, .bool b => a == b
  | .int m, .int n => m == n
  | .float x, .float y => x == y
  | .complex z, .complex w => z == w
  | .str s, .str t => s == t
  | .bytes s, .bytes t => s == t
  | .tuple xs, .tuple ys => sameConstants xs ys
  | _, _ => false

def sameConstants : List Datum → List Datum → Bool
  | [], [] => true
  | x :: xs, y :: ys => sameConstant x y && sameConstants xs ys
  | _, _ => false

end

/-! ### Computing with constants -/

def bitLength (n : Int) : Nat := if n == 0 then 0 else n.natAbs.log2 + 1

def maxFoldedBits : Nat := 128

def maxFoldedItems (isText : Bool) : Nat := if isText then 4096 else 256

def foldsRepeat (isText : Bool) (length : Nat) (n : Int) : Bool :=
  length == 0 || (0 ≤ n && n ≤ maxFoldedItems isText / length)

def foldsProduct : Datum → Datum → Bool
  | .int m, .int n => m == 0 || n == 0 || bitLength m + bitLength n ≤ maxFoldedBits
  | .int n, .tuple items | .tuple items, .int n => foldsRepeat false items.length n
  | .int n, .str s | .str s, .int n => foldsRepeat true s.length n
  | .int n, .bytes s | .bytes s, .int n => foldsRepeat true s.length n
  | _, _ => true

def foldsPower : Datum → Datum → Bool
  | .int m, .int n => n ≤ 0 || bitLength m * n.toNat ≤ maxFoldedBits
  | _, _ => true

def foldsShift : Datum → Datum → Bool
  | .int m, .int n => m == 0 || n ≤ 0 || bitLength m + n.toNat ≤ maxFoldedBits
  | _, _ => true

def foldNumbers (f : Number → Number → Except NumberError Number) (d e : Datum) : Option Datum := do
  let m ← d.number?
  let n ← e.number?
  return .ofNumber (← (f m n).toOption)

def foldInts (f : Int → Int → Except NumberError Int) (d e : Datum) : Option Datum := do
  let m ← d.int?
  let n ← e.int?
  return .int (← (f m n).toOption)

def foldBits (f : Bool → Bool → Bool) (d e : Datum) : Option Datum :=
  match d, e with
  | .bool a, .bool b => some (.bool (f a b))
  | d, e => foldInts (fun m n => .ok (Number.bitwise f m n)) d e

def foldBinary (op : BinaryOp) (d e : Datum) : Option Datum :=
  match op with
  | .add => (d.add e).toOption
  | .sub => foldNumbers Number.sub d e
  | .mult => if foldsProduct d e then (d.mul e).toOption else none
  | .div => foldNumbers Number.div d e
  | .floorDiv => foldNumbers Number.floorDiv d e
  | .mod => foldNumbers Number.mod d e
  | .pow => if foldsPower d e then foldNumbers Number.pow d e else none
  | .leftShift => if foldsShift d e then foldInts Number.shiftLeft d e else none
  | .rightShift => foldInts Number.shiftRight d e
  | .bitOr => foldBits (· || ·) d e
  | .bitXor => foldBits (· != ·) d e
  | .bitAnd => foldBits (· && ·) d e
  | .matMult => none

def foldUnary (op : UnaryOp) (d : Datum) : Option Datum :=
  match op with
  | .logicalNot => some (.bool (!d.truth))
  | .plus => d.number?.map .ofNumber
  | .minus => d.number?.map fun n => .ofNumber n.neg
  | .invert => d.int?.map fun n => .int (-n - 1)

def foldElement (d i : Datum) : Option Datum := do
  let n ← i.int?
  let pick {α : Type} (items : List α) : Option α :=
    let j := if n < 0 then n + items.length else n
    if j < 0 then none else items[j.toNat]?
  match d with
  | .tuple items => pick items
  | .str s => (pick s.toList).map fun c => .str (String.ofList [c])
  | .bytes s => (pick s.toList).map fun c => .int c.toNat
  | _ => none

mutual

def folded? : Expr → Option Datum
  | .constant _ d => some d
  | .name _ "__debug__" .load => some (.bool true)
  | .unary _ op e => do foldUnary op (← folded? e)
  | .binary _ op a b => do
    let d ← folded? a
    foldBinary op d (← folded? b)
  | .subscript _ e i .load => do
    let d ← folded? e
    foldElement d (← folded? i)
  | .tuple _ items .load => do return .tuple (← foldedAll? items)
  | _ => none

def foldedAll? : List Expr → Option (List Datum)
  | [] => some []
  | e :: rest => do
    let d ← folded? e
    return d :: (← foldedAll? rest)

end

/-! ### Values of constants -/

def looksLikeName (s : String) : Bool := s.toList.all fun c => c.isAlphanum || c == '_'

namespace Eval

def knownConstant? (unit : Nat) (d : Datum) : Eval (Option Value) := do
  let found := (← get).constants.find? fun c => c.1 == unit && sameConstant c.2.1 d
  return found.map fun c => c.2.2

def keepConstant (unit : Nat) (d : Datum) (v : Value) : Eval Value := do
  modify fun m => { m with constants := (unit, d, v) :: m.constants }
  return v

mutual

def constant (unit : Nat) : Datum → Eval Value
  | .int n => if isSmall n then return .int 0 n else do
    match ← knownConstant? unit (.int n) with
    | some v => return v
    | none => keepConstant unit (.int n) (← ofInt n)
  | .str s => if looksLikeName s || isSingle s then return .str 0 s else do
    match ← knownConstant? unit (.str s) with
    | some v => return v
    | none => keepConstant unit (.str s) (← ofString s)
  | .tuple items => if items.isEmpty then return .tuple 0 [] else do
    match ← knownConstant? unit (.tuple items) with
    | some v => return v
    | none => do
      let values ← constants unit items
      keepConstant unit (.tuple items) (← newTuple values)
  | d => do
    match ← knownConstant? unit d with
    | some v => return v
    | none => keepConstant unit d (← ofDatum d)

def constants (unit : Nat) : List Datum → Eval (List Value)
  | [] => return []
  | d :: rest => do
    let v ← constant unit d
    return v :: (← constants unit rest)

end

end Eval

end DataDiagram.Static
