import DataDiagram.Number.Binary64
/-!
# Powers of floating-point numbers

A power with a fractional or large exponent is `exp (y * log x)`, worked out in fixed point with
many more bits than a mantissa has, and then rounded once.  Small integral exponents are exact.
-/

namespace DataDiagram.Binary64

def places : Nat := 320

def unit : Int := Int.pow 2 places

/-- `log (num / den)` in fixed point, for a quotient from one to two: twice the series of the
inverse hyperbolic tangent at `(num - den) / (num + den)`. -/
def logSeries (num den : Nat) : Int :=
  let z := ((num : Int) - den) * unit / (num + den)
  let square := z * z / unit
  let (_, sum) := (List.range 110).foldl
    (fun (power, sum) k => (power * square / unit, sum + power / (2 * k + 1))) (z, 0)
  2 * sum

/-- `exp x` in fixed point, for an `x` from zero to one. -/
def expSeries (x : Int) : Int :=
  let (_, sum) := (List.range 80).foldl
    (fun (term, sum) k => (term * x / unit / (k + 1), sum + term)) (unit, 0)
  sum

/-- A power of a positive number that is given by mantissa and exponent, as a mantissa of more than
150 bits and an exponent; the exponent of the power is `num / den`. -/
def powerDigits (mantissa : Nat) (exponent : Int) (num : Int) (den : Nat) : Nat × Int :=
  let width := mantissa.log2
  let log2 := logSeries 2 1
  let log := logSeries mantissa (Nat.pow 2 width) + (exponent + width) * log2
  let product := num * log / den
  let shift := product / log2
  -- Bits beyond the first 160 only carry the error of the series.
  (roundDiv (expSeries (product - shift * log2)).toNat (Nat.pow 2 (places - 160)), shift - 160)

/-- A power of a positive number that is given by mantissa and exponent; the exponent of the power
is `num / den`.  A power that is out of all bounds is infinite or zero. -/
def positivePower (mantissa : Nat) (exponent : Int) (num : Int) (den : Nat) : Binary64 :=
  let (digits, shift) := powerDigits mantissa exponent num den
  if 1100 - 160 < shift then infinite false
  else if shift < -1200 - 160 then zero false
  else ofScaled digits shift false

/-- Why a power has no value. -/
inductive PowerError
  | zeroToNegative
  | tooLarge
  deriving DecidableEq

def smallPower (mantissa : Nat) (exponent : Int) (n : Int) : Binary64 :=
  let k := n.natAbs
  let (num, den) := scaled mantissa 1 (-exponent)
  let (num, den) := (Nat.pow num k, Nat.pow den k)
  if 0 ≤ n then ofRatio false num den else ofRatio false den num

def integer? (x : Binary64) : Option Int := do
  let (num, den) ← x.ratio?
  if num % den == 0 then some (num / den) else none

def isOdd (x : Binary64) : Bool :=
  match x.integer? with
  | some n => n % 2 == 1
  | none => false

/-- A power with both parts finite, the base not zero; `none` if it is not real. -/
def finitePower? (mantissa : Nat) (exponent : Int) (negative : Bool) (y : Binary64) :
    Option Binary64 :=
  let size :=
    match y.integer?, y.ratio? with
    | some n, some (num, den) =>
      if n.natAbs ≤ 64 then smallPower mantissa exponent n
      else positivePower mantissa exponent num den
    | none, some (num, den) => positivePower mantissa exponent num den
    | _, none => nan
  if !negative then some size
  else if y.integer?.isNone then none
  else some (if y.isOdd then size.neg else size)

/-- The power `x ^ y`; `none` if it is not real. -/
def power (x y : Binary64) : Except PowerError (Option Binary64) :=
  let one := ofInt 1
  if y.isZero || x == one then .ok (some one)
  else
    match x, y with
    | nan, _ => .ok (some nan)
    | _, nan => .ok (some nan)
    | x, infinite s =>
      match x.abs.compare? one with
      | some .eq => .ok (some one)
      | some .gt => .ok (some (if s then zero false else infinite false))
      | _ => .ok (some (if s then infinite false else zero false))
    | infinite s, y =>
      let negative := s && y.isOdd
      .ok (some (if y.isNegative then zero negative else infinite negative))
    | finite s m e, y =>
      if m == 0 then
        if y.isNegative then .error .zeroToNegative else .ok (some (zero (s && y.isOdd)))
      else
        match finitePower? m e s y with
        | some (infinite _) => .error .tooLarge
        | z => .ok z

end DataDiagram.Binary64
