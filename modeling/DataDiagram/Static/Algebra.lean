import DataDiagram.Static.Items
/-!
# Formulas among values

Values that are formulas can be computed with, as soon as one operand is a formula.  Numbers become
formulas then; truth values only do so in connectives.
-/

namespace DataDiagram.Static.Algebra

open Source (BinaryOp UnaryOp CompareOp)
open Symbolic (Formula Operation Scalar)

def ofComplex (z : ComplexNumber) : Formula :=
  Formula.add (.number (.ofBinary64 z.re)) (Formula.mul .imaginaryUnit (.number (.ofBinary64 z.im)))

def formulaOf? : Value → Option Formula
  | .formula f => some f
  | .int _ n => some (.int n)
  | .float _ x => some (.number (.ofBinary64 x))
  | .complex _ z => some (ofComplex z)
  | _ => none

def arithmetical? (v : Value) : Option Formula := do
  let f ← formulaOf? v
  if f.isArithmetical then some f else none

def logical? : Value → Option Formula
  | .bool b => some (.truth b)
  | .formula f => if f.isLogical then some f else none
  | _ => none

def int? : Value → Option Int
  | .int _ n => some n
  | .formula (.number n) => n.int?
  | _ => none

def onInts (op : BinaryOp) (m n : Int) : Option Int :=
  match op with
  | .bitAnd => some (Number.bitwise (· && ·) m n)
  | .bitOr => some (Number.bitwise (· || ·) m n)
  | .bitXor => some (Number.bitwise (· != ·) m n)
  | .leftShift => (Number.shiftLeft m n).toOption
  | .rightShift => (Number.shiftRight m n).toOption
  | _ => none

def arithmetic (op : BinaryOp) (f g : Formula) : Option Formula :=
  match op with
  | .add => some (f.add g)
  | .sub => some (f.sub g)
  | .mult => some (f.mul g)
  | .div => some (f.div g)
  | .pow => some (f.pow g)
  | .mod => f.mod g
  | .floorDiv => f.floorDiv g
  | _ => none

def logic (op : BinaryOp) (f g : Formula) : Option Formula :=
  match op with
  | .bitAnd => some (.conj [f, g])
  | .bitOr => some (.disj [f, g])
  | .bitXor => some (.exclusive [f, g])
  | .rightShift => some (f.implication g)
  | .leftShift => some (g.implication f)
  | _ => none

def binary (op : BinaryOp) (v w : Value) : Option Value :=
  match op with
  | .bitAnd | .bitOr | .bitXor | .rightShift | .leftShift =>
    match int? v, int? w with
    | some m, some n => (onInts op m n).map fun k => .formula (.int k)
    | _, _ => do
      let f ← logical? v
      let g ← logical? w
      return .formula (← logic op f g)
  | op => do
    let f ← arithmetical? v
    let g ← arithmetical? w
    return .formula (← arithmetic op f g)

def unary (op : UnaryOp) (f : Formula) : Option Value :=
  match op with
  | .plus => if f.isArithmetical then some (.formula f) else none
  | .minus => if f.isArithmetical then some (.formula f.neg) else none
  | .invert =>
    match f with
    | .number n => n.int?.map fun k => .formula (.int (-k - 1))
    | f => if f.isLogical then some (.formula f.negation) else none
  | .logicalNot => f.truth?.map fun b => .bool (!b)

def equal (v w : Value) : Bool :=
  match v, w with
  | .formula (.truth a), .bool b | .bool b, .formula (.truth a) => a == b
  | .formula (.number n), .bool b | .bool b, .formula (.number n) =>
    n.int? == some (if b then 1 else 0)
  | v, w =>
    match formulaOf? v, formulaOf? w with
    | some f, some g => f.equals g
    | _, _ => false

def relation? : CompareOp → Option Operation
  | .lt => some .less
  | .ltE => some .lessEq
  | .gt => some .greater
  | .gtE => some .greaterEq
  | _ => none

def relate (op : CompareOp) (v w : Value) : Option Value := do
  let r ← relation? op
  let f ← arithmetical? v
  let g ← arithmetical? w
  if v.isFormula then return .formula (← f.relate r g)
  else return .formula (← g.relate (Formula.exchanged r) f)

/-! ### Names -/

def constant? : String → Option Formula
  | "pi" => some (.constant .pi)
  | "E" => some (.constant .e)
  | "I" => some .imaginaryUnit
  | "oo" => some (.number (.infinite false))
  | "zoo" => some .infinity
  | "nan" => some .undefined
  | "GoldenRatio" => some (.constant .goldenRatio)
  | "EulerGamma" => some (.constant .eulerGamma)
  | "Catalan" => some (.constant .catalan)
  | "true" => some (.truth true)
  | "false" => some (.truth false)
  | _ => none

def classes : List String :=
  ["Mul", "Add", "Pow", "Mod", "Abs", "floor", "ceiling", "Min", "Max", "Rational", "Integer",
   "Float", "Symbol", "And", "Or", "Not", "Xor", "Implies", "Eq", "Ne", "Lt", "Le", "Gt", "Ge",
   "sign", "exp", "re", "Tuple"]

def functions : List String := ["sqrt", "sympify"]

def named? (name : String) : Option Value :=
  match name with
  | "max" => some (.operation "Max")
  | "min" => some (.operation "Min")
  | name =>
    match constant? name with
    | some f => some (.formula f)
    | none =>
      if classes.contains name || functions.contains name then some (.operation name) else none

/-! ### Functions -/

def toFormula (v : Value) : Eval Formula :=
  match v with
  | .bool b => return .truth b
  | v =>
    match formulaOf? v with
    | some f => return f
    | none => throw (.refused .value "")

def fail {α : Type} : Eval α := throw (.refused .type "")

def outcome (f : Option Formula) : Eval Value :=
  match f with
  | some f => return .formula f
  | none => fail

/-- Whether the arguments by name ask for evaluation; nothing else can be asked for. -/
def evaluates : List (String × Value) → Eval Bool
  | [] => return true
  | [("evaluate", .none)] => return true
  | [("evaluate", v)] => Eval.truth v
  | _ => fail

def single (f : Formula → Formula) : List Formula → Eval Value
  | [x] => return .formula (f x)
  | _ => fail

def double (f : Formula → Formula → Option Formula) : List Formula → Eval Value
  | [x, y] => outcome (f x y)
  | _ => fail

def rational? (v : Value) : Option Rat := do
  match ← formulaOf? v with
  | .number n => n.rat?
  | _ => none

def call (name : String) (args : List Value) (named : List (String × Value)) : Eval Value := do
  match name, args with
  | "Symbol", [.str _ s] => return .formula (.symbol s)
  | "Symbol", _ => fail
  | "Integer", [v] =>
    match rational? v with
    | some q => return .formula (.int (q.num.tdiv q.den))
    | none => fail
  | "Rational", [v] =>
    match rational? v with
    | some q => return .formula (.rat q)
    | none => fail
  | "Rational", [v, w] =>
    match rational? v, rational? w with
    | some p, some q => return .formula (.div (.rat p) (.rat q))
    | _, _ => fail
  | "Tuple", args => return .formula (.apply .tuple (← args.mapM toFormula))
  | name, args =>
    let fs ← args.mapM toFormula
    let evaluate ← evaluates named
    match name with
    | "Mul" =>
      if fs.all Formula.isArithmetical then
        return .formula (if evaluate then .productOf fs else .ofFactors fs)
      else fail
    | "Add" =>
      if fs.all Formula.isArithmetical then
        return .formula (if evaluate then .sumOf fs else .ofTerms fs)
      else fail
    | "Pow" => double (fun b e => some (if evaluate then b.pow e else .power b e)) fs
    | "Mod" => double Formula.mod fs
    | "Abs" => single Formula.abs fs
    | "floor" => single Formula.floor fs
    | "ceiling" => single Formula.ceiling fs
    | "sign" => single Formula.sign fs
    | "re" => single Formula.realPart fs
    | "exp" => single Formula.exp fs
    | "sqrt" => single (fun f => f.pow (.rat (mkRat 1 2))) fs
    | "sympify" => single id fs
    | "Min" => outcome (Formula.extreme .least fs)
    | "Max" => outcome (Formula.extreme .greatest fs)
    | "And" => if fs.all Formula.isLogical then return .formula (.conj fs) else fail
    | "Or" => if fs.all Formula.isLogical then return .formula (.disj fs) else fail
    | "Xor" => if fs.all Formula.isLogical then return .formula (.exclusive fs) else fail
    | "Not" => single Formula.negation fs
    | "Implies" => double (fun f g => some (f.implication g)) fs
    | "Lt" => double (Formula.relate .less) fs
    | "Le" => double (Formula.relate .lessEq) fs
    | "Gt" => double (Formula.relate .greater) fs
    | "Ge" => double (Formula.relate .greaterEq) fs
    | _ => fail

end DataDiagram.Static.Algebra
