/-!
# Binary floating-point numbers of double precision

A finite number is a sign, a mantissa below `2 ^ 53` and an exponent.  Every operation is the exact
operation on rationals followed by one rounding, to the nearest number and on a tie to the even
mantissa.
-/

namespace DataDiagram

/-- A number of double precision. -/
inductive Binary64
  /-- `mantissa * 2 ^ exponent`, negated if `negative`. -/
  | finite (negative : Bool) (mantissa : Nat) (exponent : Int)
  | infinite (negative : Bool)
  | nan
  deriving DecidableEq

namespace Binary64

def minExponent : Int := -1074

def maxExponent : Int := 971

def zero (negative : Bool) : Binary64 := finite negative 0 minExponent

/-- The quotient of two naturals rounded to the nearest natural, to the even one on a tie. -/
def roundDiv (num den : Nat) : Nat :=
  let q := num / den
  let twice := 2 * (num % den)
  if den < twice || (twice == den && q % 2 == 1) then q + 1 else q

/-- The finite number with the given mantissa, which is at most `2 ^ 53`, and exponent. -/
def pack (negative : Bool) (mantissa : Nat) (exponent : Int) : Binary64 :=
  let (mantissa, exponent) :=
    if mantissa == Nat.pow 2 53 then (Nat.pow 2 52, exponent + 1) else (mantissa, exponent)
  if maxExponent < exponent then infinite negative else finite negative mantissa exponent

/-- `num / (den * 2 ^ exponent)` as a quotient of naturals. -/
def scaled (num den : Nat) (exponent : Int) : Nat × Nat :=
  if 0 ≤ exponent then (num, den * Nat.pow 2 exponent.toNat)
  else (num * Nat.pow 2 (-exponent).toNat, den)

/-- The number nearest to the quotient of two naturals, the second one positive. -/
def ofRatio (negative : Bool) (num den : Nat) : Binary64 :=
  if num == 0 || den == 0 then zero negative
  else
    let low : Int := (num.log2 : Int) - (den.log2 : Int) - 53
    let (n, d) := scaled num den low
    let exponent := if n / d < Nat.pow 2 53 then low else low + 1
    let exponent := if exponent < minExponent then minExponent else exponent
    let (n, d) := scaled num den exponent
    pack negative (roundDiv n d) exponent

def ofInt (n : Int) : Binary64 := ofRatio (n < 0) n.natAbs 1

def isNegative : Binary64 → Bool
  | finite negative _ _ => negative
  | infinite negative => negative
  | nan => false

def isZero : Binary64 → Bool
  | finite _ mantissa _ => mantissa == 0
  | _ => false

def neg : Binary64 → Binary64
  | finite negative mantissa exponent => finite (!negative) mantissa exponent
  | infinite negative => infinite (!negative)
  | nan => nan

def abs : Binary64 → Binary64
  | finite _ mantissa exponent => finite false mantissa exponent
  | infinite _ => infinite false
  | nan => nan

def signed (negative : Bool) (mantissa : Nat) : Int :=
  if negative then -(mantissa : Int) else mantissa

def ratio? : Binary64 → Option (Int × Nat)
  | finite negative mantissa exponent =>
    let m := signed negative mantissa
    if 0 ≤ exponent then some (m * Int.pow 2 exponent.toNat, 1)
    else some (m, Nat.pow 2 (-exponent).toNat)
  | _ => none

/-- The number nearest to `m * 2 ^ exponent`, `negativeZero` being the sign of a zero. -/
def ofScaled (m : Int) (exponent : Int) (negativeZero : Bool) : Binary64 :=
  if m == 0 then zero negativeZero
  else if 0 ≤ exponent then ofRatio (m < 0) (m.natAbs * Nat.pow 2 exponent.toNat) 1
  else ofRatio (m < 0) m.natAbs (Nat.pow 2 (-exponent).toNat)

def add : Binary64 → Binary64 → Binary64
  | nan, _ => nan
  | _, nan => nan
  | infinite s, infinite t => if s == t then infinite s else nan
  | infinite s, _ => infinite s
  | _, infinite t => infinite t
  | finite s m e, finite t n f =>
    let g := min e f
    let sum := signed s m * Int.pow 2 (e - g).toNat + signed t n * Int.pow 2 (f - g).toNat
    ofScaled sum g (s && t)

def sub (x y : Binary64) : Binary64 := add x (neg y)

def mul : Binary64 → Binary64 → Binary64
  | nan, _ => nan
  | _, nan => nan
  | infinite s, y => if y.isZero then nan else infinite (s != y.isNegative)
  | x, infinite t => if x.isZero then nan else infinite (x.isNegative != t)
  | finite s m e, finite t n f => ofScaled (signed s m * signed t n) (e + f) (s != t)

def div : Binary64 → Binary64 → Binary64
  | nan, _ => nan
  | _, nan => nan
  | infinite _, infinite _ => nan
  | infinite s, y => infinite (s != y.isNegative)
  | x, infinite t => zero (x.isNegative != t)
  | finite s m e, finite t n f =>
    if n == 0 then nan
    else
      let (num, den) := scaled m n (f - e)
      ofRatio (s != t) num den

/-- Order of two numbers; `none` if one of them is not a number. -/
def compare? : Binary64 → Binary64 → Option Ordering
  | nan, _ => none
  | _, nan => none
  | infinite s, infinite t => some (if s == t then .eq else if s then .lt else .gt)
  | infinite s, _ => some (if s then .lt else .gt)
  | _, infinite t => some (if t then .gt else .lt)
  | finite s m e, finite t n f =>
    let g := min e f
    some (compare (signed s m * Int.pow 2 (e - g).toNat) (signed t n * Int.pow 2 (f - g).toNat))

def compareInt? (x : Binary64) (n : Int) : Option Ordering :=
  match x with
  | nan => none
  | infinite s => some (if s then .lt else .gt)
  | finite s m e =>
    if 0 ≤ e then some (compare (signed s m * Int.pow 2 e.toNat) n)
    else some (compare (signed s m) (n * Int.pow 2 (-e).toNat))

def floor? (x : Binary64) : Option Int := x.ratio?.map fun (n, d) => n.fdiv d

def ceil? (x : Binary64) : Option Int := x.ratio?.map fun (n, d) => -((-n).fdiv d)

/-- The integer next to a finite number on the way to zero. -/
def truncate? (x : Binary64) : Option Int := x.ratio?.map fun (n, d) => n.tdiv d

end Binary64

end DataDiagram
