import DataDiagram.Number.Circle
/-!
# Exponentials, logarithms and square roots

Like powers, they are worked out with many more bits than a mantissa has and then rounded once.
-/

namespace DataDiagram.Binary64

def log (x : Binary64) : Binary64 :=
  match x with
  | finite _ mantissa exponent =>
    let width := mantissa.log2
    ofUnits (logSeries mantissa (Nat.pow 2 width) + (exponent + width) * logSeries 2 1)
  | x => x

def exp (x : Binary64) : Binary64 :=
  match x with
  | nan => nan
  | infinite negative => if negative then zero false else infinite false
  | x =>
    let log2 := logSeries 2 1
    let shift := x.toUnits / log2
    if 1100 < shift then infinite false
    else if shift < -1200 then zero false
    else ofScaled (expSeries (x.toUnits - shift * log2)) (shift - places) false

/-- The square root of a quotient of naturals, the second one positive. -/
def sqrtRatio (num den : Nat) : Binary64 :=
  let shift := (den.log2 - num.log2) / 2 + 70
  let scaled := num * Nat.pow 4 shift
  let root := natSqrt (scaled / den)
  -- The last bit stands for all that is cut off.
  let isExact := root * root == scaled / den && scaled % den == 0
  ofRatio false (if isExact then 2 * root else 2 * root + 1) (Nat.pow 2 (shift + 1))

def hypot (x y : Binary64) : Binary64 :=
  match x, y with
  | infinite _, _ => infinite false
  | _, infinite _ => infinite false
  | x, y =>
    match x.ratio?, y.ratio? with
    | some (a, b), some (c, d) =>
      sqrtRatio (Nat.pow (a.natAbs * d) 2 + Nat.pow (c.natAbs * b) 2) (Nat.pow (b * d) 2)
    | _, _ => nan

end DataDiagram.Binary64
