import DataDiagram.Number.Exponential
import DataDiagram.Number.Fixed
/-!
# Complex numbers

A complex number is a pair of numbers of double precision.  Products follow the definition,
quotients divide by the larger part of the divisor first, and powers go through magnitude and angle
unless the exponent is a small integer.
-/

namespace DataDiagram

/-- A complex number. -/
structure ComplexNumber where
  re : Binary64
  im : Binary64
  deriving DecidableEq

namespace ComplexNumber

def ofReal (x : Binary64) : ComplexNumber := ⟨x, .zero false⟩

def one : ComplexNumber := ofReal (.ofInt 1)

def isZero (z : ComplexNumber) : Bool := z.re.isZero && z.im.isZero

def add (z w : ComplexNumber) : ComplexNumber := ⟨z.re.add w.re, z.im.add w.im⟩

def sub (z w : ComplexNumber) : ComplexNumber := ⟨z.re.sub w.re, z.im.sub w.im⟩

def neg (z : ComplexNumber) : ComplexNumber := ⟨z.re.neg, z.im.neg⟩

def mul (z w : ComplexNumber) : ComplexNumber :=
  ⟨(z.re.mul w.re).sub (z.im.mul w.im), (z.re.mul w.im).add (z.im.mul w.re)⟩

def atLeast (x y : Binary64) : Bool :=
  match x.compare? y with
  | some o => o != .lt
  | none => false

def div (z w : ComplexNumber) : ComplexNumber :=
  if atLeast w.re.abs w.im.abs then
    let ratio := w.im.div w.re
    let denom := w.re.add (w.im.mul ratio)
    ⟨(z.re.add (z.im.mul ratio)).div denom, (z.im.sub (z.re.mul ratio)).div denom⟩
  else if atLeast w.im.abs w.re.abs then
    let ratio := w.re.div w.im
    let denom := (w.re.mul ratio).add w.im
    ⟨((z.re.mul ratio).add z.im).div denom, ((z.im.mul ratio).sub z.re).div denom⟩
  else ⟨.nan, .nan⟩

def abs (z : ComplexNumber) : Binary64 := Binary64.hypot z.re z.im

/-- A power with a natural exponent by repeated squaring, the lowest bit first. -/
def powerBits : (fuel : Nat) → (n : Nat) → (square outcome : ComplexNumber) → ComplexNumber
  | 0, _, _, outcome => outcome
  | fuel + 1, n, square, outcome =>
    if n == 0 then outcome
    else powerBits fuel (n / 2) (mul square square)
      (if n % 2 == 1 then mul outcome square else outcome)

def integerPower (z : ComplexNumber) (n : Int) : ComplexNumber :=
  let size := powerBits 64 n.natAbs z one
  if 0 < n then size else div one size

/-- Why a power has no value. -/
inductive PowerError
  | zeroToNegative
  | tooLarge
  deriving DecidableEq

def isInfinite (z : ComplexNumber) : Bool :=
  match z.re, z.im with
  | .infinite _, _ => true
  | _, .infinite _ => true
  | _, _ => false

def polarPower (z w : ComplexNumber) : ComplexNumber :=
  let size := z.abs
  let angle := Binary64.atan2 z.im z.re
  let length := match size.power w.re with
    | .ok (some x) => x
    | .ok none => .nan
    | .error .zeroToNegative => .infinite false
    | .error .tooLarge => .infinite false
  let phase := angle.mul w.re
  let (length, phase) :=
    if w.im.isZero then (length, phase)
    else (length.div (angle.mul w.im).exp, phase.add (w.im.mul size.log))
  ⟨length.mul phase.cos, length.mul phase.sin⟩

def pow (z w : ComplexNumber) : Except PowerError ComplexNumber :=
  let small? : Option Int := do
    let n ← w.re.integer?
    if w.im.isZero && n.natAbs ≤ 100 then some n else none
  match small? with
  | some n =>
    if n < 0 && z.isZero then .error .zeroToNegative
    else
      let outcome := if n == 0 then one else integerPower z n
      if outcome.isInfinite then .error .tooLarge else .ok outcome
  | none =>
    if z.isZero then
      if !w.im.isZero || w.re.isNegative then .error .zeroToNegative
        else .ok ⟨.zero false, .zero false⟩
    else
      let outcome := polarPower z w
      if outcome.isInfinite then .error .tooLarge else .ok outcome

def partText (x : Binary64) : String :=
  let shown := x.text.toList
  if shown.drop (shown.length - 2) == ['.', '0'] then String.ofList (shown.take (shown.length - 2))
  else x.text

def signedText (x : Binary64) (text : String) : String := if x.isNegative then text else "+" ++ text

def text (z : ComplexNumber) : String :=
  if z.re == .zero false then partText z.im ++ "j"
  else "(" ++ partText z.re ++ signedText z.im (partText z.im) ++ "j)"

def fixedText (places : Nat) (z : ComplexNumber) : String :=
  z.re.fixedText places ++ signedText z.im (z.im.fixedText places) ++ "j"

end ComplexNumber

end DataDiagram
