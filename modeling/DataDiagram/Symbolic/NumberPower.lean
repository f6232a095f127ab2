import DataDiagram.Number.Circle
import DataDiagram.Symbolic.Radical
/-!
# Powers of numbers

A power of a number with a number as exponent is worked out as far as it can be: exactly if both are
exact, and approximately otherwise.
-/

namespace DataDiagram.Symbolic

namespace Approx

def turnedPower (x : Approx) (y : Rat) : Approx × Approx :=
  let (digits, shift) := Binary64.powerDigits x.mantissa.natAbs x.exponent y.num y.den
  let (s, c) := Binary64.sineCosine (Binary64.halfTurn * y.num / y.den)
  let part (t : Int) : Approx := round (digits * t) 1 (shift - Binary64.places)
  (if y.den == 2 then zero else part c, part s)

end Approx

namespace Formula

def complex (re im : Approx) : Formula :=
  let imaginary := product [number (.approx im), imaginaryUnit]
  if im.isZero then number (.computed re)
  else if re.isZero then imaginary
  else sum [number (.approx re), imaginary]

def nearPower (x : Approx) (y : Rat) : Formula :=
  if y.den == 1 then number (.computed (x.intPower y.num))
  else if x.isNegative then
    let (re, im) := x.turnedPower y
    complex re im
  else number (.computed (x.power y))

def approxPower (x : Approx) (e : Scalar) : Formula :=
  if x.isZero then
    if e.isPositive then number (.approx x)
    else if e.isNegative then infinity
    else power (number (.approx x)) (number e)
  else
    match e with
    | .exact q =>
      if q.den == 1 then number (.computed (x.intPower q.num))
      else if q.num == 1 && q.den % 2 == 1 && x.isNegative then
        product [number (.computed (x.neg.power (Approx.ofRat q).toRat)), power (int (-1)) (rat q)]
      else nearPower x (Approx.ofRat q).toRat
    | e => nearPower x e.toApprox.toRat

def unboundedPower (b : Scalar) (negative : Bool) : Formula :=
  let b := if negative && !b.isZero then b.inverse else b
  match b.compare? .one, b.compare? (.ofInt (-1)) with
  | some .gt, _ => number (.infinite false)
  | some .lt, some .gt => if negative && b.isZero then infinity else zero
  | _, some .lt => infinity
  | _, _ => undefined

def lowestPower (e : Scalar) : Formula :=
  match e.int? with
  | some n =>
    if 0 < n then number (.infinite (n % 2 == 1)) else zero
  | none =>
    if e.isNegative then zero
    else
      match e with
      | .exact q =>
        let (negated, factors) := Radical.withTurn q []
        ofFactors (number (.infinite negated) :: factors)
      | e => power (number (.infinite true)) (number e)

def scalarPower (b e : Scalar) : Formula :=
  if e.isZero && e.isExact then one
  else if e.isOne then number b
  else
    match b, e with
    | .undefined, _ => undefined
    | _, .undefined => undefined
    | .infinite s, .infinite t =>
      if s then undefined else if t then zero else number (.infinite false)
    | .infinite s, e =>
      if s then lowestPower e
      else if e.isPositive then number (.infinite false)
      else if e.isNegative then zero
      else power (number b) (number e)
    | b, .infinite t => if b.isOne then undefined else unboundedPower b t
    | .exact q, e =>
      if q == 1 then one
      else if q == 0 then
        if e.isPositive then zero
        else if e.isNegative then infinity
        else power (number b) (number e)
      else
        match e with
        | .exact r =>
          if r.den == 1 then rat (Scalar.ratPower q r.num) else Radical.power q r
        | e => approxPower (.ofRat q) e
    | .approx x, e => approxPower x e

end Formula

end DataDiagram.Symbolic
