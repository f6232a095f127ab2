import DataDiagram.Number.Power
import DataDiagram.Number.Shortest
/-!
# Approximate numbers

Binary floating-point numbers with 53 significant bits and exponents without bounds.  Every
operation is the exact one followed by one rounding, to the nearest number and on a tie to the even
mantissa.
-/

namespace DataDiagram.Symbolic

/-- The number `mantissa * 2 ^ exponent`.  The mantissa is odd, or the number is zero and both parts
are. -/
structure Approx where
  mantissa : Int
  exponent : Int
  deriving DecidableEq

namespace Approx

def precision : Nat := 53

def zero : Approx := ⟨0, 0⟩

/-- Takes factors of two out of a mantissa, at most `fuel` of them. -/
def reduce : (fuel : Nat) → Int → Int → Approx
  | 0, m, e => ⟨m, e⟩
  | fuel + 1, m, e =>
    if m == 0 then zero else if m % 2 == 0 then reduce fuel (m / 2) (e + 1) else ⟨m, e⟩

/-- The number nearest to `num / den * 2 ^ exponent`, for a positive denominator. -/
def round (num : Int) (den : Nat) (exponent : Int) : Approx :=
  if num == 0 then zero
  else
    let n := num.natAbs
    let low : Int := (n.log2 : Int) - (den.log2 : Int) - precision
    let (a, b) := Binary64.scaled n den low
    let shift := if a / b < Nat.pow 2 precision then low else low + 1
    let (a, b) := Binary64.scaled n den shift
    let m : Int := Binary64.roundDiv a b
    reduce (precision + 2) (if num < 0 then -m else m) (shift + exponent)

def ofRat (q : Rat) : Approx := round q.num q.den 0

def toRat (x : Approx) : Rat :=
  if 0 ≤ x.exponent then ((x.mantissa * Int.pow 2 x.exponent.toNat : Int) : Rat)
  else mkRat x.mantissa (Nat.pow 2 (-x.exponent).toNat)

def ofBinary64? : Binary64 → Option Approx
  | .finite negative m e => some (round (Binary64.signed negative m) 1 e)
  | _ => none

def add (x y : Approx) : Approx :=
  let e := min x.exponent y.exponent
  let aligned (z : Approx) : Int := z.mantissa * Int.pow 2 (z.exponent - e).toNat
  round (aligned x + aligned y) 1 e

def mul (x y : Approx) : Approx := round (x.mantissa * y.mantissa) 1 (x.exponent + y.exponent)

def neg (x : Approx) : Approx := ⟨-x.mantissa, x.exponent⟩

def isZero (x : Approx) : Bool := x.mantissa == 0

def isNegative (x : Approx) : Bool := decide (x.mantissa < 0)

def inverse (x : Approx) : Approx :=
  round (if x.mantissa < 0 then -1 else 1) x.mantissa.natAbs (-x.exponent)

def intPower (x : Approx) (n : Int) : Approx :=
  let k := n.natAbs
  let size := x.mantissa.natAbs
  let negative := x.mantissa < 0 && k % 2 == 1
  let (digits, shift) :=
    if k ≤ 256 then (Nat.pow size k, x.exponent * k) else Binary64.powerDigits size x.exponent k 1
  let sign : Int := if negative then -1 else 1
  if 0 ≤ n then round (sign * digits) 1 shift else round sign digits (-shift)

def power (x : Approx) (y : Rat) : Approx :=
  let (digits, shift) := Binary64.powerDigits x.mantissa.natAbs x.exponent y.num y.den
  round digits 1 shift

/-! ### Texts -/

def digitCount : Nat := 15

/-- The significant digits of the size of a number that is not zero, a half being rounded up, and
the power of ten of the first one. -/
def significant (q : Rat) : Nat × Int :=
  let k := Binary64.decimalExponent q.num.natAbs q.den - 1
  let shift : Int := (digitCount : Int) - 1 - k
  let (num, den) :=
    if 0 ≤ shift then (q.num.natAbs * Nat.pow 10 shift.toNat, q.den)
    else (q.num.natAbs, q.den * Nat.pow 10 (-shift).toNat)
  let digits := (2 * num + den) / (2 * den)
  if digits == Nat.pow 10 digitCount then (Nat.pow 10 (digitCount - 1), k + 1) else (digits, k)

def stripZeros (cs : List Char) : List Char :=
  let short := (cs.reverse.dropWhile (· == '0')).reverse
  if short.getLast? == some '.' then short ++ ['0'] else short

/-- Digits with a point, the first digit having the given power of ten. -/
def positional (digits : List Char) (k : Int) : List Char :=
  if 0 ≤ k then digits.take (k.toNat + 1) ++ '.' :: digits.drop (k.toNat + 1)
  else '0' :: '.' :: (List.replicate ((-k).toNat - 1) '0' ++ digits)

def dropPoint (cs : List Char) : List Char := if cs.getLast? == some '.' then cs.dropLast else cs

def scientific (mark : Char) (digits : List Char) (k : Int) : List Char :=
  digits.take 1 ++ '.' :: digits.drop 1 ++ [mark, if k < 0 then '-' else '+'] ++
    (toString k.natAbs).toList

/-- The text of a number within a formula: zeros at the end go, and what is not between `10 ^ (-4)`
and `10 ^ 15` has an exponent. -/
def innerText (x : Approx) : String :=
  if x.isZero then "0.0"
  else
    let (digits, k) := significant x.toRat
    let ds := (toString digits).toList
    let sign := if x.isNegative then ['-'] else []
    if -5 < k && k < digitCount then String.ofList (sign ++ stripZeros (positional ds k))
    else
      let short := stripZeros (ds.take 1 ++ '.' :: ds.drop 1)
      String.ofList (sign ++ short ++ ['e', if k < 0 then '-' else '+'] ++
        (toString k.natAbs).toList)

/-- The text of a number that stands alone: all significant digits are written, and what is not
between `10 ^ (-6)` and `10 ^ 15` has an exponent. -/
def text (x : Approx) : String :=
  if x.isZero then "0.0"
  else
    let (digits, k) := significant x.toRat
    let ds := (toString digits).toList
    let sign := if x.isNegative then ['-'] else []
    String.ofList (sign ++
      (if -7 < k && k < digitCount then dropPoint (positional ds k) else scientific 'E' ds k))

end Approx

end DataDiagram.Symbolic
