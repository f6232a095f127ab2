import DataDiagram.Symbolic.Approx
/-!
# Scalars

The numbers in formulas: exact fractions, approximate numbers, which spread to everything they are
computed with, the two signed infinities, and what has no value.
-/

namespace DataDiagram.Symbolic

/-- A number in a formula. -/
inductive Scalar
  | exact (q : Rat)
  | approx (x : Approx)
  | infinite (negative : Bool)
  | undefined
  deriving DecidableEq

namespace Scalar

/-- The integer `n`. -/
def ofInt (n : Int) : Scalar := exact n

def zero : Scalar := exact 0

def one : Scalar := exact 1

def ofBinary64 (x : Binary64) : Scalar :=
  match x with
  | .nan => undefined
  | .infinite negative => infinite negative
  | x => approx ((Approx.ofBinary64? x).getD .zero)

def computed (x : Approx) : Scalar := if x.isZero then zero else approx x

def rat? : Scalar → Option Rat
  | exact q => some q
  | approx x => some x.toRat
  | _ => none

def int? : Scalar → Option Int
  | exact q => if q.den == 1 then some q.num else none
  | _ => none

def isExact : Scalar → Bool
  | exact _ => true
  | _ => false

def isApprox : Scalar → Bool
  | approx _ => true
  | _ => false

def isFinite : Scalar → Bool
  | exact _ | approx _ => true
  | _ => false

def isZero : Scalar → Bool
  | exact q => q == 0
  | approx x => x.isZero
  | _ => false

def isOne : Scalar → Bool
  | exact q => q == 1
  | _ => false

def isNegative : Scalar → Bool
  | exact q => decide (q.num < 0)
  | approx x => x.isNegative
  | infinite negative => negative
  | undefined => false

def isPositive : Scalar → Bool
  | infinite negative => !negative
  | undefined => false
  | n => !n.isZero && !n.isNegative

def toApprox : Scalar → Approx
  | exact q => .ofRat q
  | approx x => x
  | _ => .zero

def add : Scalar → Scalar → Scalar
  | exact p, exact q => exact (p + q)
  | undefined, _ => undefined
  | _, undefined => undefined
  | infinite s, infinite t => if s == t then infinite s else undefined
  | infinite s, _ => infinite s
  | _, infinite t => infinite t
  | x, y => computed (x.toApprox.add y.toApprox)

def mul : Scalar → Scalar → Scalar
  | exact p, exact q => exact (p * q)
  | undefined, _ => undefined
  | _, undefined => undefined
  | infinite s, y => if y.isZero then undefined else infinite (s != y.isNegative)
  | x, infinite t => if x.isZero then undefined else infinite (x.isNegative != t)
  | x, y => computed (x.toApprox.mul y.toApprox)

def neg : Scalar → Scalar
  | exact q => exact (-q)
  | approx x => approx x.neg
  | infinite negative => infinite (!negative)
  | undefined => undefined

def abs (n : Scalar) : Scalar := if n.isNegative then n.neg else n

def inverse : Scalar → Scalar
  | exact q => exact q⁻¹
  | approx x => approx x.inverse
  | n => n

/-- The quotient of a number by a finite one that is not zero: there is one rounding. -/
def div : Scalar → Scalar → Scalar
  | exact p, exact q => exact (p / q)
  | approx x, y =>
    let d := y.toApprox.toRat
    if d == 0 then undefined else computed (Approx.ofRat (x.toRat / d))
  | x, y => x.mul y.inverse

/-- The order of two numbers; `none` if one of them has no value. -/
def compare? : Scalar → Scalar → Option Ordering
  | undefined, _ => none
  | _, undefined => none
  | infinite s, infinite t => some (if s == t then .eq else if s then .lt else .gt)
  | infinite s, _ => some (if s then .lt else .gt)
  | _, infinite t => some (if t then .gt else .lt)
  | x, y =>
    match x.rat?, y.rat? with
    | some p, some q => some (if p < q then .lt else if q < p then .gt else .eq)
    | _, _ => none

def sameValue : Scalar → Scalar → Bool
  | undefined, undefined => true
  | x, y => x.compare? y == some .eq

/-- An integral power of a fraction that is not zero, or is raised to no negative power. -/
def ratPower (q : Rat) (n : Int) : Rat :=
  if 0 ≤ n then q ^ n.toNat else q⁻¹ ^ (-n).toNat

def floor? (n : Scalar) : Option Int := n.rat?.map Rat.floor

def ceil? (n : Scalar) : Option Int := n.rat?.map Rat.ceil

/-- The remainder of finite numbers with the sign of the divisor, which is not zero.  That of
approximate numbers is worked out exactly and then rounded. -/
def mod (x y : Scalar) : Scalar :=
  match x.rat?, y.rat? with
  | some p, some q =>
    let r := p - q * (p / q).floor
    if x.isExact && y.isExact then exact r
    else if y.int?.isSome then computed (Approx.ofRat r)
    else approx (Approx.ofRat r)
  | _, _ => undefined

end Scalar

end DataDiagram.Symbolic
