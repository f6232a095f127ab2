import DataDiagram.Number.Power
/-!
# Circular functions

Sine, cosine and the angle of a point, in fixed point with many more bits than a mantissa has.
-/

namespace DataDiagram.Binary64

/-- The series of the arc tangent at `x` in fixed point, for an `x` of small magnitude. -/
def arcSeries (x : Int) : Int :=
  let square := x * x / unit
  let (_, sum) := (List.range 160).foldl
    (fun (power, sum) (k : Nat) =>
      let term := power / (2 * k + 1)
      (power * square / unit, if k % 2 == 0 then sum + term else sum - term)) (x, 0)
  sum

def halfTurn : Int := 16 * arcSeries (unit / 5) - 4 * arcSeries (unit / 239)

/-- The series of sine and cosine at `x` in fixed point, for an `x` of magnitude at most one. -/
def circleSeries (x : Int) : Int × Int :=
  let (_, sine, cosine) := (List.range 90).foldl
    (fun (term, sine, cosine) (k : Nat) =>
      let next := term * x / unit / (k + 1)
      match k % 4 with
      | 0 => (next, sine, cosine + term)
      | 1 => (next, sine + term, cosine)
      | 2 => (next, sine, cosine - term)
      | _ => (next, sine - term, cosine)) (unit, 0, 0)
  (sine, cosine)

def sineCosine (x : Int) : Int × Int :=
  let quarter := halfTurn / 2
  let turns := (2 * x + quarter) / (2 * quarter)
  let (s, c) := circleSeries (x - turns * quarter)
  match (turns % 4).toNat with
  | 0 => (s, c)
  | 1 => (c, -s)
  | 2 => (-s, -c)
  | _ => (-c, s)

/-- The integer part of a square root, found bit by bit from `root` on. -/
def rootBits (n : Nat) : (bit root : Nat) → Nat
  | 0, root => if (root + 1) * (root + 1) ≤ n then root + 1 else root
  | bit + 1, root =>
    let more := root + Nat.pow 2 (bit + 1)
    if more * more ≤ n then rootBits n bit more else rootBits n bit root

def natSqrt (n : Nat) : Nat := rootBits n (n.log2 / 2) 0

/-- The arc tangent of a number from zero to one, in fixed point: the angle is halved three
times. -/
def arcTangent (x : Int) : Int :=
  let halve (x : Int) : Int :=
    let root : Int := natSqrt (unit * unit + x * x).toNat
    x * unit / (unit + root)
  8 * arcSeries (halve (halve (halve x)))

def angle (x y : Int) : Int :=
  let a := x.natAbs
  let b := y.natAbs
  let first : Int :=
    if b ≤ a then arcTangent (b * unit / a) else halfTurn / 2 - arcTangent (a * unit / b)
  let upper := if x < 0 then halfTurn - first else first
  if y < 0 then -upper else upper

def toUnits (x : Binary64) : Int :=
  match x.ratio? with
  | some (num, den) => num * unit / den
  | none => 0

def ofUnits (x : Int) : Binary64 := ofScaled x (-(places : Int)) false

def sin (x : Binary64) : Binary64 := if x.isZero then x else ofUnits (sineCosine x.toUnits).1

def cos (x : Binary64) : Binary64 := ofUnits (sineCosine x.toUnits).2

def atan2 (y x : Binary64) : Binary64 :=
  if y.isZero then
    if x.isNegative then ofUnits (if y.isNegative then -halfTurn else halfTurn) else y
  else if x.isZero then ofUnits (if y.isNegative then -(halfTurn / 2) else halfTurn / 2)
  else
    -- Scaling both coordinates leaves the angle as it is and keeps the bits of a small one.
    match x.ratio?, y.ratio? with
    | some (a, b), some (c, d) => ofUnits (angle (a * d) (c * b))
    | _, _ => nan

end DataDiagram.Binary64
