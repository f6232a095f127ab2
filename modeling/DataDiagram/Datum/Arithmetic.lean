import DataDiagram.Datum
/-!
# Arithmetic of data

Sums, products, differences, quotients and the order of plain values.  Numbers are computed with,
sequences are joined and repeated, sets are subtracted; everything else is refused.
-/

namespace DataDiagram

/-- Why an operation on plain values has no outcome. -/
inductive DatumError
  | number (e : NumberError)
  | badOperands (op left right : String)
  | notConcatenable (sequence other : String)
  | notConcatenableBytes (other : String)
  | notRepeatable (kind : String)
  | notOrdered (op left right : String)
  | countTooLarge
  | textTooLong
  | outOfMemory
  deriving DecidableEq

namespace DatumError

def message : DatumError → String
  | number e => e.message
  | badOperands op left right => s!"unsupported operand type(s) for {op}: '{left}' and '{right}'"
  | notConcatenable sequence other =>
    s!"can only concatenate {sequence} (not \"{other}\") to {sequence}"
  | notConcatenableBytes other => s!"can't concat {other} to bytes"
  | notRepeatable kind => s!"can't multiply sequence by non-int of type '{kind}'"
  | notOrdered op left right => s!"'{op}' not supported between instances of '{left}' and '{right}'"
  | countTooLarge => "cannot fit 'int' into an index-sized integer"
  | textTooLong => "repeated string is too long"
  | outOfMemory => ""

def kind : DatumError → ErrorKind
  | number e => e.kind
  | countTooLarge | textTooLong => .overflow
  | outOfMemory => .memory
  | _ => .type

end DatumError

namespace Datum

def maxCount : Int := Int.pow 2 63 - 1

def maxItems : Nat := Nat.pow 2 32

/-- A list of items `n` times. -/
def repeated {α : Type} (n : Int) (items : List α) : List α :=
  if items.isEmpty then [] else (List.replicate n.toNat items).flatten

/-- Succeeds if a sequence of some length can be repeated `n` times. -/
def checkRepeat (isText : Bool) (length : Nat) (n : Int) : Except DatumError Unit :=
  if maxCount < n || n < -maxCount - 1 then .error .countTooLarge
  else if isText && maxCount < (length : Int) * n then .error .textTooLong
  else if maxItems < length * n.toNat then .error .outOfMemory
  else .ok ()

def refuse {α : Type} (op : String) (d e : Datum) : Except DatumError α :=
  .error (.badOperands op d.kind e.kind)

def onNumbers (op : String) (f : Number → Number → Except NumberError Number) (m n : Number)
    (d e : Datum) : Except DatumError Datum :=
  match f m n with
  | .ok r => .ok (ofNumber r)
  | .error .unsupported => refuse op d e
  | .error cause => .error (.number cause)

def add (d e : Datum) : Except DatumError Datum :=
  match d.number?, e.number? with
  | some m, some n => onNumbers "+" Number.add m n d e
  | _, _ =>
    match d, e with
    | str s, str t => .ok (str (s ++ t))
    | bytes s, bytes t => .ok (bytes (s ++ t))
    | tuple xs, tuple ys => .ok (tuple (xs ++ ys))
    | list xs, list ys => .ok (list (xs ++ ys))
    | bytes _, e => .error (.notConcatenableBytes e.kind)
    | str _, e | tuple _, e | list _, e => .error (.notConcatenable d.kind e.kind)
    | d, e => refuse "+" d e

def times? (d : Datum) (n : Int) : Option (Except DatumError Datum) :=
  match d with
  | str s => some do
    checkRepeat true s.length n
    return str (String.ofList (repeated n s.toList))
  | bytes s => some do
    checkRepeat false s.length n
    return bytes (String.ofList (repeated n s.toList))
  | tuple items => some do
    checkRepeat false items.length n
    return tuple (repeated n items)
  | list items => some do
    checkRepeat false items.length n
    return list (repeated n items)
  | _ => Option.none

def isSequence : Datum → Bool
  | str _ | bytes _ | tuple _ | list _ => true
  | _ => false

def repeatBy (d e : Datum) : Except DatumError Datum :=
  match e.int? with
  | some n => (d.times? n).getD (refuse "*" d e)
  | Option.none => .error (.notRepeatable e.kind)

def mul (d e : Datum) : Except DatumError Datum :=
  match d.number?, e.number? with
  | some m, some n => onNumbers "*" Number.mul m n d e
  | _, _ =>
    if d.isSequence then repeatBy d e
    else if e.isSequence then repeatBy e d
    else refuse "*" d e

def sub (d e : Datum) : Except DatumError Datum :=
  match d.number?, e.number? with
  | some m, some n => onNumbers "-" Number.sub m n d e
  | _, _ =>
    match d, e with
    | set xs, set ys => .ok (set (xs.filter fun x => !ys.any (same x)))
    | d, e => refuse "-" d e

def div (d e : Datum) : Except DatumError Datum :=
  match d.number?, e.number? with
  | some m, some n => onNumbers "/" Number.div m n d e
  | _, _ => refuse "/" d e

/-! ### Order -/

/-- Which of two values comes first. -/
inductive Relation
  | less
  | greater
  deriving DecidableEq

namespace Relation

def text : Relation → String
  | less => "<"
  | greater => ">"

def fits : Relation → Ordering → Bool
  | less, .lt => true
  | greater, .gt => true
  | _, _ => false

end Relation

mutual

/-- Whether a value comes before or after another one, as `rel` asks. -/
def ordered (rel : Relation) : Datum → Datum → Except DatumError Bool
  | str s, str t => .ok (rel.fits (Text.compareTexts s t))
  | bytes s, bytes t => .ok (rel.fits (Text.compareTexts s t))
  | tuple xs, tuple ys => orderedItems rel xs ys
  | list xs, list ys => orderedItems rel xs ys
  | set xs, set ys =>
    match rel with
    | .less => .ok (xs.length < ys.length && allAmong xs ys)
    | .greater => .ok (ys.length < xs.length && allAmong ys xs)
  | d, e =>
    match d.number?, e.number? with
    | some m, some n =>
      if m.isComplex || n.isComplex then .error (.notOrdered rel.text d.kind e.kind)
      else .ok ((m.compare? n).any rel.fits)
    | _, _ => .error (.notOrdered rel.text d.kind e.kind)

/-- Whether the first items in which two lists differ are in order; the end of a list comes before
everything. -/
def orderedItems (rel : Relation) : List Datum → List Datum → Except DatumError Bool
  | x :: xs, y :: ys => if same x y then orderedItems rel xs ys else ordered rel x y
  | [], [] => .ok false
  | [], _ :: _ => .ok (rel == .less)
  | _ :: _, [] => .ok (rel == .greater)

end

end Datum

end DataDiagram
