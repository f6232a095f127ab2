import DataDiagram.ErrorKind
import DataDiagram.Number.ComplexNumber
/-!
# Numbers of several kinds

Integers, numbers of double precision and complex numbers in one arithmetic: an operation on numbers
of different kinds is done in the wider kind.
-/

namespace DataDiagram

/-- A number. -/
inductive Number
  | int (n : Int)
  | float (x : Binary64)
  | complex (z : ComplexNumber)
  deriving DecidableEq

/-- Why an operation on numbers has no value. -/
inductive NumberError
  | divisionByZero
  | floatDivisionByZero
  | complexDivisionByZero
  | integerDivisionByZero
  | integerModuloByZero
  | floatFloorDivisionByZero
  | floatModuloByZero
  | floatDivmodByZero
  | zeroToNegativePower
  | complexZeroPower
  | powerTooLarge
  | complexPowerTooLarge
  | tooLarge
  | quotientTooLarge
  | negativeShift
  | shiftTooLarge
  | unsupported
  deriving DecidableEq

namespace NumberError

def message : NumberError → String
  | divisionByZero => "division by zero"
  | floatDivisionByZero => "float division by zero"
  | complexDivisionByZero => "complex division by zero"
  | integerDivisionByZero => "integer division or modulo by zero"
  | integerModuloByZero => "integer modulo by zero"
  | floatFloorDivisionByZero => "float floor division by zero"
  | floatModuloByZero => "float modulo"
  | floatDivmodByZero => "float divmod()"
  | zeroToNegativePower => "0.0 cannot be raised to a negative power"
  | complexZeroPower => "0.0 to a negative or complex power"
  | powerTooLarge => "(34, 'Numerical result out of range')"
  | complexPowerTooLarge => "complex exponentiation"
  | tooLarge => "int too large to convert to float"
  | quotientTooLarge => "integer division result too large for a float"
  | negativeShift => "negative shift count"
  | shiftTooLarge => "too many digits in integer"
  | unsupported => ""

def kind : NumberError → ErrorKind
  | tooLarge | quotientTooLarge | powerTooLarge | complexPowerTooLarge | shiftTooLarge => .overflow
  | negativeShift => .value
  | unsupported => .type
  | _ => .zeroDivision

end NumberError

namespace Number

def toFloat : Number → Except NumberError Binary64
  | float x => .ok x
  | int n =>
    match Binary64.ofInt n with
    | .infinite _ => .error .tooLarge
    | x => .ok x
  | complex _ => .error .unsupported

def toComplex : Number → Except NumberError ComplexNumber
  | complex z => .ok z
  | n => do return .ofReal (← n.toFloat)

def isZero : Number → Bool
  | int n => n == 0
  | float x => x.isZero
  | complex z => z.isZero

/-- An operation on two numbers, which is done in the wider of their kinds. -/
def combine (ints : Int → Int → Except NumberError Number)
    (floats : Binary64 → Binary64 → Except NumberError Number)
    (complexes : ComplexNumber → ComplexNumber → Except NumberError Number)
    (m n : Number) : Except NumberError Number :=
  match m, n with
  | int a, int b => ints a b
  | complex z, n => do complexes z (← n.toComplex)
  | m, complex w => do complexes (← m.toComplex) w
  | m, n => do floats (← m.toFloat) (← n.toFloat)

def add : Number → Number → Except NumberError Number :=
  combine (fun a b => .ok (int (a + b))) (fun x y => .ok (float (x.add y)))
    (fun z w => .ok (complex (z.add w)))

def sub : Number → Number → Except NumberError Number :=
  combine (fun a b => .ok (int (a - b))) (fun x y => .ok (float (x.sub y)))
    (fun z w => .ok (complex (z.sub w)))

def mul : Number → Number → Except NumberError Number :=
  combine (fun a b => .ok (int (a * b))) (fun x y => .ok (float (x.mul y)))
    (fun z w => .ok (complex (z.mul w)))

/-- The quotient of two integers as the nearest number of double precision. -/
def intQuotient (a b : Int) : Except NumberError Number :=
  if b == 0 then .error .divisionByZero
  else
    match Binary64.ofRatio (decide (a < 0) != decide (b < 0)) a.natAbs b.natAbs with
    | .infinite _ => .error .quotientTooLarge
    | x => .ok (float (if a == 0 then .zero false else x))

def div : Number → Number → Except NumberError Number :=
  combine intQuotient
    (fun x y => if y.isZero then .error .floatDivisionByZero else .ok (float (x.div y)))
    (fun z w => if w.isZero then .error .complexDivisionByZero else .ok (complex (z.div w)))

/-! ### Integral quotients -/

/-- What is left of a number after taking away a multiple of another one on the way to zero, for a
divisor that is not zero. -/
def floatRest (x y : Binary64) : Binary64 :=
  match x.ratio?, y.ratio? with
  | some (a, b), some (c, d) =>
    let num := (a * d).tmod (b * c)
    if num == 0 then .zero x.isNegative else .ofRatio (decide (num < 0)) num.natAbs (b * d)
  | some _, none => if y == .nan then .nan else x
  | none, _ => .nan

def floatFloor (x : Binary64) : Binary64 :=
  match x.floor? with
  | some n =>
    let whole := Binary64.ofInt n
    if (x.sub whole).compare? (.ofRatio false 1 2) == some .gt then whole.add (.ofInt 1) else whole
  | none => x

/-- The integral quotient of numbers of double precision, and the remainder with the sign of the
divisor, which is not zero. -/
def floatDivMod (x y : Binary64) : Binary64 × Binary64 :=
  let rest := floatRest x y
  let quotient := (x.sub rest).div y
  let (quotient, rest) :=
    if rest.isZero then (quotient, .zero y.isNegative)
    else if rest.isNegative != y.isNegative then (quotient.sub (.ofInt 1), rest.add y)
    else (quotient, rest)
  (if quotient.isZero then .zero (x.div y).isNegative else floatFloor quotient, rest)

def floorDiv : Number → Number → Except NumberError Number :=
  combine (fun a b => if b == 0 then .error .integerDivisionByZero else .ok (int (a.fdiv b)))
    (fun x y =>
      if y.isZero then .error .floatFloorDivisionByZero else .ok (float (floatDivMod x y).1))
    (fun _ _ => .error .unsupported)

def mod : Number → Number → Except NumberError Number :=
  combine (fun a b => if b == 0 then .error .integerModuloByZero else .ok (int (a.fmod b)))
    (fun x y => if y.isZero then .error .floatModuloByZero else .ok (float (floatDivMod x y).2))
    (fun _ _ => .error .unsupported)

def divMod (m n : Number) : Except NumberError (Number × Number) :=
  match m, n with
  | int a, int b =>
    if b == 0 then .error .integerDivisionByZero else .ok (int (a.fdiv b), int (a.fmod b))
  | m, n => do
    let x ← m.toFloat
    let y ← n.toFloat
    if y.isZero then .error .floatDivmodByZero
    else
      let (quotient, rest) := floatDivMod x y
      return (float quotient, float rest)

/-! ### Powers -/

def complexPower (z w : ComplexNumber) : Except NumberError Number :=
  match z.pow w with
  | .ok r => .ok (complex r)
  | .error .zeroToNegative => .error .complexZeroPower
  | .error .tooLarge => .error .complexPowerTooLarge

def floatPower (x y : Binary64) : Except NumberError Number :=
  match x.power y with
  | .ok (some z) => .ok (float z)
  | .ok none => complexPower (.ofReal x) (.ofReal y)
  | .error .zeroToNegative => .error .zeroToNegativePower
  | .error .tooLarge => .error .powerTooLarge

/-- The power of two numbers; a negative exponent leads from integers to numbers of double
precision. -/
def pow : Number → Number → Except NumberError Number :=
  combine
    (fun a b =>
      if 0 ≤ b then .ok (int (Int.pow a b.toNat))
      else do floatPower (← (int a).toFloat) (← (int b).toFloat))
    floatPower complexPower

/-! ### Bits -/

/-- Bits of integers, negative ones having infinitely many leading ones. -/
def bitwise (op : Bool → Bool → Bool) (a b : Int) : Int :=
  let width := a.natAbs.log2 + b.natAbs.log2 + 3
  let bit (k : Int) (i : Nat) : Bool := (k.fdiv (Int.pow 2 i)).fmod 2 == 1
  let value := (List.range width).foldl
    (fun acc i => if op (bit a i) (bit b i) then acc + Int.pow 2 i else acc) (0 : Int)
  if op (a < 0) (b < 0) then value - Int.pow 2 width else value

def maxShift : Nat := Nat.pow 2 62

def shiftLeft (a b : Int) : Except NumberError Int :=
  if b < 0 then .error .negativeShift
  else if a == 0 then .ok 0
  else if maxShift ≤ b.toNat then .error .shiftTooLarge
  else .ok (a * Int.pow 2 b.toNat)

def shiftRight (a b : Int) : Except NumberError Int :=
  if b < 0 then .error .negativeShift
  else if a.natAbs.log2 + 1 < b.toNat then .ok (if a < 0 then -1 else 0)
  else .ok (a.fdiv (Int.pow 2 b.toNat))

/-! ### One number -/

def neg : Number → Number
  | int n => int (-n)
  | float x => float x.neg
  | complex z => complex z.neg

def abs : Number → Number
  | int n => int n.natAbs
  | float x => float x.abs
  | complex z => float z.abs

/-- The order of two numbers; `none` if they have no order, though they are of kinds that do. -/
def compare? : Number → Number → Option Ordering
  | int a, int b => some (compare a b)
  | int a, float y => (y.compareInt? a).map Ordering.swap
  | float x, int b => x.compareInt? b
  | float x, float y => x.compare? y
  | _, _ => none

def isComplex : Number → Bool
  | complex _ => true
  | _ => false

def equal : Number → Number → Bool
  | complex z, complex w => z.re.compare? w.re == some .eq && z.im.compare? w.im == some .eq
  | complex z, n => z.im.isZero && compare? (float z.re) n == some .eq
  | m, complex w => w.im.isZero && compare? m (float w.re) == some .eq
  | m, n => compare? m n == some .eq

end Number

end DataDiagram
