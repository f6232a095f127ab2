import DataDiagram.Symbolic.Scalar
import DataDiagram.Text.Surrogate
/-!
# Formulas

Sums, products and powers of numbers and symbols, and functions of them.  A formula that is computed
is in normal form: like terms of a sum and like factors of a product are collected, numbers come
first, and the others follow in the order of `Formula.compare`.
-/

namespace DataDiagram.Symbolic

/-- A number that only has a name. -/
inductive Constant
  | infinity
  | imaginaryUnit
  | pi
  | e
  | goldenRatio
  | eulerGamma
  | catalan
  deriving DecidableEq

namespace Constant

def text : Constant → String
  | infinity => "zoo"
  | imaginaryUnit => "I"
  | pi => "pi"
  | e => "E"
  | goldenRatio => "GoldenRatio"
  | eulerGamma => "EulerGamma"
  | catalan => "Catalan"

def kind : Constant → String
  | infinity => "ComplexInfinity"
  | imaginaryUnit => "ImaginaryUnit"
  | pi => "Pi"
  | e => "Exp1"
  | c => c.text

/-- A decimal fraction close to a constant that is a real number. -/
def value? : Constant → Option Rat
  | infinity | imaginaryUnit => none
  | pi => some (mkRat 314159265358979323846264338327950288419716939937510 (Nat.pow 10 50))
  | e => some (mkRat 271828182845904523536028747135266249775724709369996 (Nat.pow 10 50))
  | goldenRatio => some (mkRat 161803398874989484820458683436563811772030917980576 (Nat.pow 10 50))
  | eulerGamma => some (mkRat 57721566490153286060651209008240243104215933593992 (Nat.pow 10 50))
  | catalan => some (mkRat 91596559417721901505460351493238411077414937428167 (Nat.pow 10 50))

end Constant

/-- A function of formulas. -/
inductive Operation
  | mod | floor | ceiling | abs | realPart | imaginaryPart | sign | least | greatest
  | exp | log | sin | cos | tan
  | conj | disj | exclusive | negation | implication
  | less | lessEq | greater | greaterEq | equal | notEqual
  | tuple
  deriving DecidableEq

namespace Operation

def kind : Operation → String
  | mod => "Mod"
  | floor => "floor"
  | ceiling => "ceiling"
  | abs => "Abs"
  | realPart => "re"
  | imaginaryPart => "im"
  | sign => "sign"
  | least => "Min"
  | greatest => "Max"
  | exp => "exp"
  | log => "log"
  | sin => "sin"
  | cos => "cos"
  | tan => "tan"
  | conj => "And"
  | disj => "Or"
  | exclusive => "Xor"
  | negation => "Not"
  | implication => "Implies"
  | less => "StrictLessThan"
  | lessEq => "LessThan"
  | greater => "StrictGreaterThan"
  | greaterEq => "GreaterThan"
  | equal => "Equality"
  | notEqual => "Unequality"
  | tuple => "Tuple"

def isRelation : Operation → Bool
  | less | lessEq | greater | greaterEq | equal | notEqual => true
  | _ => false

def isLogical : Operation → Bool
  | conj | disj | exclusive | negation | implication => true
  | op => op.isRelation

end Operation

/-- A formula. -/
inductive Formula
  | number (n : Scalar)
  | constant (c : Constant)
  | symbol (name : String)
  | truth (b : Bool)
  | sum (terms : List Formula)
  | product (factors : List Formula)
  | power (base exponent : Formula)
  | apply (op : Operation) (args : List Formula)
  deriving Inhabited

namespace Formula

/-- The integer `n`. -/
def int (n : Int) : Formula := number (.ofInt n)

def rat (q : Rat) : Formula := number (.exact q)

def one : Formula := number .one

def zero : Formula := number .zero

def undefined : Formula := number .undefined

def infinity : Formula := constant .infinity

def imaginaryUnit : Formula := constant .imaginaryUnit

def isZero : Formula → Bool
  | number (.exact q) => q == 0
  | _ => false

def isOne : Formula → Bool
  | number n => n.isOne
  | _ => false

def isNumber : Formula → Bool
  | number _ => true
  | _ => false

def isSum : Formula → Bool
  | sum _ => true
  | _ => false

def isProduct : Formula → Bool
  | product _ => true
  | _ => false

/-! ### Order -/

/-- The rank of a number: the common ones come first. -/
def scalarRank : Scalar → Nat
  | .exact q =>
    if q == 0 then 0
    else if q == 1 then 1
    else if q == mkRat 1 2 then 2
    else if q == -1 then 5
    else if q.den == 1 then 7
    else 8
  | .infinite negative => if negative then 6 else 3
  | .undefined => 4
  | .approx _ => 9

def rank : Formula → Nat
  | number n => scalarRank n
  | constant .e => 10
  | constant .pi => 11
  | constant .imaginaryUnit => 12
  | symbol _ => 13
  | power .. => 14
  | product _ => 15
  | sum _ => 16
  | apply .abs _ => 17
  | apply .equal _ => 18
  | apply .notEqual _ => 19
  | apply .greater _ => 20
  | apply .less _ => 21
  | apply .greaterEq _ => 22
  | apply .lessEq _ => 23
  | _ => 24

def kindName : Formula → String
  | constant c => c.kind
  | apply op _ => op.kind
  | truth b => if b then "BooleanTrue" else "BooleanFalse"
  | _ => ""

def compareScalars : Scalar → Scalar → Ordering
  | .exact p, .exact q => (Ord.compare p.num q.num).then (Ord.compare p.den q.den)
  | .approx x, .approx y =>
    (Ord.compare x.isNegative.toNat y.isNegative.toNat).then
      ((Ord.compare x.mantissa.natAbs y.mantissa.natAbs).then (Ord.compare x.exponent y.exponent))
  | _, _ => .eq

def compareKinds (f g : Formula) : Ordering :=
  (Ord.compare f.rank g.rank).then (Text.compareTexts f.kindName g.kindName)

mutual

def compare : Formula → Formula → Ordering
  | number m, number n => (Ord.compare (scalarRank m) (scalarRank n)).then (compareScalars m n)
  | symbol s, symbol t => Text.compareTexts s t
  | sum xs, sum ys => (Ord.compare xs.length ys.length).then (compareAll xs ys)
  | product xs, product ys => (Ord.compare xs.length ys.length).then (compareAll xs ys)
  | power a b, power c d => (compare a c).then (compare b d)
  | apply s xs, apply t ys =>
    (compareKinds (apply s xs) (apply t ys)).then
      ((Ord.compare xs.length ys.length).then (compareAll xs ys))
  | f, g => compareKinds f g

def compareAll : List Formula → List Formula → Ordering
  | x :: xs, y :: ys => (compare x y).then (compareAll xs ys)
  | _, _ => .eq

end

def same (f g : Formula) : Bool := compare f g == .eq

def equals (f g : Formula) : Bool :=
  match f, g with
  | number m, number n => m.sameValue n
  | f, g => same f g

def sorted (fs : List Formula) : List Formula := fs.mergeSort fun f g => compare f g != .gt

mutual

def size : Formula → Nat
  | sum xs => sizeAll xs + 1
  | product xs => sizeAll xs + 1
  | apply _ xs => sizeAll xs + 1
  | power a b => size a + size b + 1
  | _ => 1

def sizeAll : List Formula → Nat
  | [] => 0
  | x :: xs => size x + sizeAll xs

end

mutual

def depth : Formula → Nat
  | sum xs => depthAll xs + 1
  | product xs => depthAll xs + 1
  | apply _ xs => depthAll xs + 1
  | power a b => max (depth a) (depth b) + 1
  | _ => 1

def depthAll : List Formula → Nat
  | [] => 0
  | x :: xs => max (depth x) (depthAll xs)

end

mutual

def hasSymbol : Formula → Bool
  | symbol _ => true
  | sum xs => anySymbol xs
  | product xs => anySymbol xs
  | apply _ xs => anySymbol xs
  | power a b => hasSymbol a || hasSymbol b
  | _ => false

def anySymbol : List Formula → Bool
  | [] => false
  | x :: xs => hasSymbol x || anySymbol xs

end

/-! ### Numbers in front -/

def ofFactors : List Formula → Formula
  | [] => one
  | [f] => f
  | fs => product fs

def ofTerms : List Formula → Formula
  | [] => zero
  | [f] => f
  | fs => sum fs

def split : Formula → Scalar × Formula
  | number n => if n.isZero then (.one, number n) else (n, one)
  | product (number n :: rest) => (n, ofFactors rest)
  | f => (.one, f)

def factors : Formula → List Formula
  | product fs => fs
  | f => [f]

def terms : Formula → List Formula
  | sum ts => ts
  | f => [f]

end Formula

end DataDiagram.Symbolic
