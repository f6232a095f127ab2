import DataDiagram.Symbolic.Polynomial
/-!
# Functions of formulas

Rounding, magnitude, remainder, and the least and the greatest of formulas.  What can be worked out
is worked out, the rest stays as it is.
-/

namespace DataDiagram.Symbolic.Formula

/-! ### Parts of complex numbers -/

mutual

def realPart : Formula → Formula
  | number n => number n
  | sum ts => sumOf (realParts ts)
  | product (number n :: rest) =>
    let inner := ofFactors rest
    mul (number n) (if inner.facts.real == some true then inner else apply .realPart [inner])
  | f =>
    let facts := f.facts
    if facts.real == some true then f
    else if facts.imaginary == some true then zero
    else apply .realPart [f]

def realParts : List Formula → List Formula
  | [] => []
  | f :: rest => realPart f :: realParts rest

end

def sign (f : Formula) : Formula :=
  let facts := f.facts
  if facts.zero == some true then zero
  else if facts.positive == some true then one
  else if facts.negative == some true then int (-1)
  else apply .sign [f]

/-! ### Rounding -/

/-- Which way a number is rounded to an integer. -/
inductive Rounding
  | down | up
  deriving DecidableEq

namespace Rounding

def operation : Rounding → Operation
  | down => .floor
  | up => .ceiling

def round : Rounding → Rat → Int
  | down, q => q.floor
  | up, q => q.ceil

end Rounding

def isWhole (f : Formula) : Bool :=
  f.facts.integer == some true || match f with
    | constant .imaginaryUnit => true
    | product [number n, constant .imaginaryUnit] => n.int?.isSome
    | _ => false

def isRounded : Formula → Bool
  | apply .floor _ | apply .ceiling _ => true
  | product [number n, apply .floor _] | product [number n, apply .ceiling _] => n == .ofInt (-1)
  | _ => false

def rounded (way : Rounding) (f : Formula) : Formula :=
  match f with
  | number n =>
    match n.rat? with
    | some q => int (way.round q)
    | none => f
  | constant c =>
    match c.value? with
    | some q => int (way.round q)
    | none => f
  | f =>
    let facts := f.facts
    if f.isRounded || facts.integer == some true || facts.finite == some false then f
    else
      let whole := sumOf (f.terms.filter isWhole)
      let others := f.terms.filter fun t => !t.isWhole
      let numeric := others.filter fun t => !t.hasSymbol
      let symbolic := others.filter hasSymbol
      match symbolic, (sumOf numeric).approximateReal? with
      | [], some v => sumOf [whole, int (way.round v)]
      | _, _ =>
        match sumOf others with
        | apply .floor gs => sumOf [whole, apply .floor gs]
        | apply .ceiling gs => sumOf [whole, apply .ceiling gs]
        | g => if g.isZero then whole else sumOf [whole, apply way.operation [g]]

def floor (f : Formula) : Formula := rounded .down f

def ceiling (f : Formula) : Formula := rounded .up f

/-! ### Magnitude -/

def numerDenom : List Formula → List Formula × List Formula
  | [] => ([], [])
  | f :: rest =>
    let (above, below) := numerDenom rest
    match f with
    | power b e =>
      if e.split.1.isNegative then (above, pow b (neg e) :: below) else (f :: above, below)
    | number (.exact q) =>
      (rat q.num :: above, if q.den == 1 then below else rat q.den :: below)
    | f => (f :: above, below)

def unsigned : Formula → Formula
  | sum ts => if hasMinus (sum ts) then neg (sum ts) else sum ts
  | product fs => productOf (fs.map fun f => match f with
    | sum ts => if hasMinus (sum ts) then neg (sum ts) else sum ts
    | f => f)
  | f => f

def isMagnitude : Formula → Bool
  | apply .abs _ => true
  | _ => false

def powerMagnitude? (absolute : Formula → Formula) (b e : Formula) : Option Formula :=
  let base := b.facts
  let exponent := e.facts
  if base.real == some true then
    if exponent.integer == some true then
      some (if exponent.even == some true then power b e else pow (absolute b) e)
    else if base.isNonnegative then some (pow b (realPart e))
    else none
  else none

def absWithin : (fuel : Nat) → Formula → Formula
  | 0, f => apply .abs [f]
  | fuel + 1, f =>
    match f with
    | number n => number n.abs
    | constant .infinity => number (.infinite false)
    | constant .imaginaryUnit => one
    | apply .abs gs => apply .abs gs
    | f =>
    let f := unsigned f
    let (above, below) := numerDenom f.factors
    if anySymbol below && !anySymbol above then
      div (absWithin fuel (productOf above)) (absWithin fuel (productOf below))
    else
    match f with
    | product fs =>
      let known (g : Formula) : Option Formula :=
        match g with
        | power b (number n) =>
          if n.int?.isSome && n.isNegative then
            let m := absWithin fuel b
            if m.isMagnitude then none else some (pow m (number n))
          else
            let m := absWithin fuel g
            if m.isMagnitude then none else some m
        | g =>
          let m := absWithin fuel g
          if m.isMagnitude then none else some m
      let outside := productOf (fs.filterMap known)
      let inside := fs.filter fun g => (known g).isNone
      if inside.isEmpty then outside else mul outside (apply .abs [productOf inside])
    | f =>
      let special := match f with
        | power b e => powerMagnitude? (absWithin fuel) b e
        | apply .exp [g] => some (exp (realPart g))
        | _ => none
      match special with
      | some g => g
      | none =>
      let facts := f.facts
      if facts.zero == some true then zero
      else if facts.isNonnegative then f
      else if facts.isNonpositive then neg f
      else
        match pureComplex? f with
        | some (a, b) => pow (number ((a.mul a).add (b.mul b))) (rat (mkRat 1 2))
        | none => apply .abs [f]

def abs (f : Formula) : Formula := absWithin (f.size + 5) f

/-! ### Remainder -/

def isRemainder : Formula → Bool
  | apply .mod _ => true
  | _ => false

mutual

def remainders : Formula → Nat
  | sum fs => allRemainders fs
  | product fs => allRemainders fs
  | power b e => remainders b + remainders e
  | apply op fs => (if op == .mod then 1 else 0) + allRemainders fs
  | _ => 0

def allRemainders : List Formula → Nat
  | [] => 0
  | f :: rest => remainders f + allRemainders rest

end

/-- The outcome of a look at a remainder: it may be known, open, or have no value. -/
inductive Outcome
  | known (f : Formula)
  | unknown
  | failed

def remainderByRatio (p q : Formula) : Outcome :=
  let r := div p q
  if r.facts.integer == some true then .known zero
  else
    match r.approximateReal? with
    | some v =>
      let d := if v < 0 then v.ceil else v.floor
      let rest := sub p (mul (int d) q)
      match rest.approximateReal?, q.approximateReal? with
      | some a, some b => .known (if a * b < 0 then add rest q else rest)
      | _, _ => .known rest
    | none => .unknown

def knownRemainder (p q : Formula) : Outcome :=
  if q.facts.zero == some true then .failed
  else if p.same undefined || q.same undefined || p.facts.finite == some false ||
      q.facts.finite == some false then .known undefined
  else if p.isZero || p.equals q || p.equals (neg q) ||
      (p.facts.integer == some true && q.equals one) then .known zero
  else
    match p, q with
    | number m, number n => .known (number (m.mod n))
    | p, q =>
      if q.equals (int 2) && p.facts.even == some true then .known zero
      else if q.equals (int 2) && p.facts.integer == some true && p.facts.even == some false then
        .known one
      else remainderByRatio p q

/-- The remainder of formulas, within a bound on how deep they nest; `none` if it has no value. -/
def modWithin : (fuel : Nat) → Formula → Formula → Option Formula
  | 0, p, q => some (apply .mod [p, q])
  | fuel + 1, p, q =>
    match knownRemainder p q with
    | .failed => none
    | .known f => some f
    | .unknown =>
    let divides (inner : Formula) : Bool := (modWithin fuel inner q).any fun r => r.isZeroNumber
    let smaller (inner : Formula) : Bool := (mul inner (sub q inner)).facts.isNonnegative
    let opposite (inner : Formula) : Bool := (mul inner (add q inner)).facts.isNonpositive
    let nested : Option (Option Formula) :=
      match p with
      | apply .mod [a, inner] =>
        if divides inner then some (modWithin fuel a q)
        else if smaller inner then some (some p)
        else none
      | product [number m, apply .mod [a, inner]] =>
        if m == .ofInt (-1) then
          if divides inner then some (modWithin fuel (neg a) q)
          else if opposite inner then some (some p)
          else none
        else none
      | sum ts =>
        let mods := ts.filter isRemainder
        let same := mods.all fun t => match t with
          | apply .mod [_, inner] => inner.equals q
          | _ => false
        if mods.isEmpty || !same then none
        else
          let inner := mods.filterMap fun t => match t with
            | apply .mod [a, _] => some a
            | _ => none
          some (modWithin fuel (sumOf [sumOf (ts.filter fun t => !t.isRemainder), sumOf inner]) q)
      | _ => none
    match nested with
    | some outcome => outcome
    | none =>
    let p := match p with
      | product fs => productOf fs
      | p => p
    let g := gcd p q
    let one? := g.isOne || g.equals one
    let (p, q) := if one? then (p, q) else (gcdTerms (div p g), gcdTerms (div q g))
    let (g, p, q) :=
      match p with
      | sum ts =>
        let ts' := ts.map fun t =>
          match modWithin fuel t q with
          | some r => if t.remainders < r.remainders then t else r
          | none => t
        (g, sumOf ts', q)
      | p =>
        let (c, p') := p.split
        let (d, q') := q.split
        let fits := (!c.isExact || !d.isExact) && !d.isZero && (c.mod d).isZero
        if fits then
          (mul g (number d), mul p' (int ((c.div d).rat?.getD 0).floor), q')
        else (g, mul (number c) p', mul (number d) q')
    let (g, p, q) := if hasMinus p && hasMinus q then (neg g, neg p, neg q) else (g, p, q)
    match knownRemainder p q with
    | .failed => none
    | .known f => some (mul f g)
    | .unknown =>
      match g with
      | number (.approx x) =>
        if (Scalar.approx x).sameValue .one then some (apply .mod [mul p g, q])
        else some (mul g (apply .mod [p, q]))
      | product (number (.approx x) :: rest) =>
        if (Scalar.approx x).sameValue .one then
          some (mul (ofFactors rest) (apply .mod [mul (number (.approx x)) p, q]))
        else some (mul g (apply .mod [p, q]))
      | g => some (mul g (apply .mod [p, q]))

/-- The remainder of formulas; `none` if it has no value. -/
def mod (p q : Formula) : Option Formula := modWithin (p.depth + q.depth + 6) p q

/-- The quotient of formulas, rounded down; `none` if it has no value. -/
def floorDiv (p q : Formula) : Option Formula :=
  match p, q with
  | number _, number n => if n.isZero then none else some (floor (div p q))
  | p, q => some (floor (div p q))

/-! ### Least and greatest -/

def atMost? (f g : Formula) : Option Bool :=
  match f, g with
  | number m, number n => (m.compare? n).map (· != .gt)
  | f, g =>
    match (sub f g) with
    | number n => if n == .undefined then none else some (!n.isPositive)
    | d => d.approximateReal?.map (· ≤ 0)

/-- Formulas without those that another one makes superfluous; `op` says which one stays. -/
def extremes (op : Operation) (fs : List Formula) : List Formula :=
  fs.foldl (fun kept f =>
    let related (g : Formula) : Option Bool :=
      -- Whether `f` takes the place of `g`.
      match atMost? f g with
      | some b => some (if op == .least then b else !b)
      | none => none
    if kept.any fun g => same f g || related g == some false then kept
    else (kept.filter fun g => (related g).isNone) ++ [f]) []

/-- The arguments of the least or the greatest of formulas, those of inner ones among them. -/
def extremeArgs (op : Operation) (fs : List Formula) : List Formula :=
  fs.flatMap fun f => match f with
    | apply o gs => if o == op then gs else [f]
    | f => [f]

def isComparable (f : Formula) : Bool :=
  match f with
  | truth _ => false
  | number .undefined => false
  | apply o _ => !o.isLogical && o != .tuple
  | f =>
    f.facts.real != some false && (f.hasSymbol || f.isNumber || f.approximateReal?.isSome)

/-- The least or the greatest of formulas; `none` if one of them cannot be compared. -/
def extreme (op : Operation) (fs : List Formula) : Option Formula :=
  let bound : Scalar := .infinite (op == .least)
  let identity : Scalar := bound.neg
  if !fs.all isComparable then none
  else
    let args := (extremeArgs op fs).filter fun f => !f.equals (number identity)
    if args.any fun f => f.equals (number bound) then some (number bound)
    else
      -- An argument of a function of the other kind absorbs that function.
      let absorbed (f : Formula) : Bool :=
        match f with
        | apply .least gs | apply .greatest gs => gs.any fun g => args.any (same g)
        | _ => false
      match extremes op (args.filter fun f => !absorbed f) with
      | [] => some (number identity)
      | [f] => some f
      | fs => some (apply op (ordered fs))

end DataDiagram.Symbolic.Formula
