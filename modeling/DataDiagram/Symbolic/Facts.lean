import DataDiagram.Symbolic.Formula
/-!
# Facts about formulas

What is known of the value of a formula: whether it is real, of which sign, and so on.  A symbol
stands for any complex number, so nothing is known of it.  The value of a formula without symbols is
approximated.
-/

namespace DataDiagram.Symbolic

/-- What is known of a formula; `none` is for what is not known. -/
structure Facts where
  finite : Option Bool
  zero : Option Bool
  real : Option Bool
  positive : Option Bool
  negative : Option Bool
  integer : Option Bool
  even : Option Bool
  /-- Whether it is a real number times the imaginary unit, and not zero. -/
  imaginary : Option Bool

namespace Facts

def unknown : Facts := ⟨none, none, none, none, none, none, none, none⟩

def ofScalar (n : Scalar) : Facts :=
  match n with
  | .undefined => unknown
  | n =>
    { finite := some n.isFinite, zero := some n.isZero, real := some true
      positive := some n.isPositive, negative := some n.isNegative
      integer := some (n.int?.isSome || n.isZero)
      even := some (n.isZero || n.int?.any (· % 2 == 0))
      imaginary := some false }

def ofConstant : Constant → Facts
  | .infinity =>
    { finite := some false, zero := some false, real := some false, positive := some false
      negative := some false, integer := some false, even := some false, imaginary := some false }
  | .imaginaryUnit =>
    { finite := some true, zero := some false, real := some false, positive := some false
      negative := some false, integer := some false, even := some false, imaginary := some true }
  | _ =>
    { finite := some true, zero := some false, real := some true, positive := some true
      negative := some false, integer := some false, even := some false, imaginary := some false }

def isNonnegative (f : Facts) : Bool := f.real == some true && f.negative == some false

def isNonpositive (f : Facts) : Bool := f.real == some true && f.positive == some false

def nonnegative : Facts := { unknown with real := some true, negative := some false }

def nonpositive : Facts := { unknown with real := some true, positive := some false }

def all (xs : List (Option Bool)) : Option Bool :=
  if xs.any (· == some false) then some false
  else if xs.all (· == some true) then some true
  else none

def whenAll (xs : List (Option Bool)) : Option Bool :=
  if xs.all (· == some true) then some true else none

def sumReal (fs : List Facts) : Option Bool :=
  let kinds := fs.map Facts.real
  if kinds.any Option.isNone then none
  else if kinds.all (· == some true) then some true
  else if (kinds.filter (· == some false)).length == 1 then some false
  else none

def ofSum (fs : List Facts) : Facts :=
  let nonneg := fs.all isNonnegative
  let nonpos := fs.all isNonpositive
  { unknown with
    finite := whenAll (fs.map Facts.finite)
    real := sumReal fs
    positive :=
      if nonneg && fs.any (·.positive == some true) then some true
      else if nonpos then some false else none
    negative :=
      if nonpos && fs.any (·.negative == some true) then some true
      else if nonneg then some false else none
    zero :=
      if (nonneg && fs.any (·.positive == some true)) ||
        (nonpos && fs.any (·.negative == some true))
      then some false else none
    integer := whenAll (fs.map Facts.integer)
    imaginary := whenAll (fs.map Facts.imaginary) }

def productSign (fs : List Facts) : Option Bool :=
  fs.foldl (fun acc f =>
    match acc, f.positive, f.negative with
    | some s, some true, _ => some s
    | some s, _, some true => some (!s)
    | _, _, _ => none) (some false)

def ofProduct (fs : List Facts) : Facts :=
  let allFinite := fs.all (·.finite == some true)
  let real := fs.all (·.real == some true)
  let turns := (fs.filter (·.imaginary == some true)).length
  let known := fs.all fun f => f.real == some true || f.imaginary == some true
  let nonzero := fs.all (·.zero == some false)
  let sign := if real then productSign fs else none
  let nonneg := real && fs.all isNonnegative
  { finite := if allFinite then some true else none
    zero :=
      if allFinite && fs.any (·.zero == some true) then some true
      else if allFinite && nonzero then some false
      else none
    real :=
      if real then some true
      else if known && allFinite && nonzero then some (turns % 2 == 0)
      else none
    positive := sign.map not
    negative := if nonneg then some false else sign
    integer := whenAll (fs.map Facts.integer)
    even :=
      if fs.all (·.integer == some true) && fs.any (·.even == some true) then some true else none
    imaginary := if known && allFinite && nonzero then some (turns % 2 == 1) else none }

def ofPower (b e : Facts) : Facts :=
  let finite := if b.finite == some true && e.finite == some true && b.zero == some false
    then some true else none
  if b.positive == some true && e.real == some true then
    { unknown with
      finite := finite, real := some true, zero := if finite == some true then some false else none
      positive := if finite == some true then some true else none
      negative := some false, imaginary := some false }
  else if b.real == some true && e.integer == some true &&
      (b.zero == some false || e.isNonnegative) then
    { unknown with
      finite := finite, real := some true
      negative := if e.even == some true || isNonnegative b then some false else none
      positive := if e.even == some true && b.zero == some false then some true else none
      zero := if b.zero == some false && finite == some true then some false else none }
  else unknown

end Facts

namespace Formula

/-! ### Approximations -/

def approximatePower? (base exponent : Rat) : Option Rat :=
  let mantissa := (base.num * Int.pow 2 256 / base.den).toNat
  if mantissa == 0 then none
  else
    let (digits, shift) := Binary64.powerDigits mantissa (-256) exponent.num exponent.den
    if 4000 < shift.natAbs then none
    else if 0 ≤ shift then some (digits * Nat.pow 2 shift.toNat : Nat)
    else some (mkRat digits (Nat.pow 2 (-shift).toNat))

def complexPower (re im : Rat) : (exponent : Nat) → Rat × Rat
  | 0 => (1, 0)
  | n + 1 =>
    let (a, b) := complexPower re im n
    (a * re - b * im, a * im + b * re)

def complexInverse (re im : Rat) : Rat × Rat :=
  let square := re * re + im * im
  (re / square, -im / square)

/-- A power of complex numbers, if its exponent is a small integer, or both are real and the base is
positive. -/
def complexPower? (b e : Rat × Rat) : Option (Rat × Rat) :=
  if e.2 == 0 && e.1.den == 1 && e.1.num.natAbs ≤ 64 then
    if 0 ≤ e.1.num then some (complexPower b.1 b.2 e.1.num.natAbs)
    else if b.1 == 0 && b.2 == 0 then none
    else
      let (re, im) := complexPower b.1 b.2 e.1.num.natAbs
      some (complexInverse re im)
  else if e.2 == 0 && b.2 == 0 && 0 < b.1 then (approximatePower? b.1 e.1).map fun v => (v, 0)
  else none

mutual

def approximate? : Formula → Option (Rat × Rat)
  | number n => n.rat?.map fun q => (q, 0)
  | constant .imaginaryUnit => some (0, 1)
  | constant c => c.value?.map fun q => (q, 0)
  | sum ts => (approximateAll? ts).map fun vs =>
    vs.foldl (fun (a, b) (c, d) => (a + c, b + d)) (0, 0)
  | product fs => (approximateAll? fs).map fun vs =>
    vs.foldl (fun (a, b) (c, d) => (a * c - b * d, a * d + b * c)) (1, 0)
  | power b e => do complexPower? (← approximate? b) (← approximate? e)
  | symbol _ | truth _ | apply .. => none

def approximateAll? : List Formula → Option (List (Rat × Rat))
  | [] => some []
  | f :: rest => do
    let v ← approximate? f
    let vs ← approximateAll? rest
    return v :: vs

end

def approximateReal? (f : Formula) : Option Rat :=
  match f.approximate? with
  | some (re, im) => if im == 0 then some re else none
  | none => none

def settled (f : Formula) (facts : Facts) : Facts :=
  match f.approximateReal? with
  | some v =>
    if facts.real == some true then
      { facts with
        finite := some true, zero := some (v == 0), positive := some (0 < v)
        negative := some (v < 0), imaginary := some false }
    else facts
  | none => facts

def functionFacts : Operation → List Facts → Facts
  | .abs, [f] =>
    { Facts.nonnegative with finite := f.finite, zero := f.zero, positive := f.zero.map not }
  | .realPart, _ | .imaginaryPart, _ => { Facts.unknown with real := some true }
  | .mod, [p, q] =>
    let integer := Facts.whenAll [p.integer, q.integer]
    if q.positive == some true then
      { Facts.nonnegative with finite := some true, integer := integer }
    else if q.negative == some true then
      { Facts.nonpositive with finite := some true, integer := integer }
    else { Facts.unknown with integer := integer }
  | .floor, [f] | .ceiling, [f] =>
    { Facts.unknown with
      finite := f.finite, real := f.real
      integer := if f.real == some true && f.finite == some true then some true else none }
  | .exp, [f] =>
    if f.real == some true then
      { Facts.nonnegative with
        finite := f.finite, positive := f.finite, zero := f.finite.map not }
    else Facts.unknown
  | .least, fs | .greatest, fs =>
    { Facts.unknown with
      finite := Facts.whenAll (fs.map Facts.finite), real := Facts.whenAll (fs.map Facts.real)
      integer := Facts.whenAll (fs.map Facts.integer) }
  | _, _ => Facts.unknown

mutual

def facts : Formula → Facts
  | number n => .ofScalar n
  | constant c => .ofConstant c
  | symbol _ | truth _ => .unknown
  | sum ts => settled (sum ts) (.ofSum (factsAll ts))
  | product fs => settled (product fs) (.ofProduct (factsAll fs))
  | power b e => settled (power b e) (.ofPower (facts b) (facts e))
  | apply op fs => functionFacts op (factsAll fs)

def factsAll : List Formula → List Facts
  | [] => []
  | f :: rest => facts f :: factsAll rest

end

end Formula

end DataDiagram.Symbolic
