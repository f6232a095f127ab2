import DataDiagram.Symbolic.Sum
/-!
# Products and powers of formulas

Like factors are collected: the exponents of one base are added.  A number is distributed over a
single sum; products and powers of sums stay as they are.  Products and powers call for each other,
so both have a bound on how deep they do.
-/

namespace DataDiagram.Symbolic.Formula

/-! ### Collecting factors -/

/-- Factors that are being multiplied. -/
structure Factors where
  number : Scalar
  unbounded : Bool
  turn : Rat
  roots : List Radical.Root
  exponentials : List (Formula × Formula)
  powers : List (Formula × Formula)

namespace Factors

def empty : Factors := ⟨.one, false, 0, [], [], []⟩

/-- Factors with a number; `none` if the product has no value. -/
def mulNumber (acc : Factors) (n : Scalar) : Option Factors :=
  if n == .undefined || (acc.unbounded && n.isZero) then none
  else if acc.unbounded then some acc
  else
    let m := acc.number.mul n
    if m == .undefined then none else some { acc with number := m }

def mulPlain (acc : Factors) (f : Formula) : Option Factors :=
  match f with
  | .number n => acc.mulNumber n
  | .constant .infinity =>
    if acc.number.isZero && !acc.unbounded then none else some { acc with unbounded := true }
  | .constant .imaginaryUnit => some { acc with turn := acc.turn + mkRat 1 2 }
  | f =>
    let (b, e) := f.baseExponent
    some { acc with powers := acc.powers ++ [(b, e)] }

def mulRoot (acc : Factors) (b e : Rat) : Factors :=
  let acc := if b < 0 then { acc with turn := acc.turn + e } else acc
  let size := if b < 0 then -b else b
  if size == 1 then acc else { acc with roots := acc.roots ++ [(size, e)] }

def mulOne (acc : Factors) (f : Formula) : Option Factors :=
  match f with
  | .power (.number b) (.number (.exact q)) =>
    match b with
    | .exact p => if q.den != 1 && 0 < q then some (acc.mulRoot p q) else acc.mulPlain f
    | _ => acc.mulPlain f
  | .power (.number _) _ =>
    let (b, e) := f.baseExponent
    if b.facts.positive == some true || e.facts.integer == some true then
      some { acc with exponentials := acc.exponentials ++ [(b, e)] }
    else some { acc with powers := acc.powers ++ [(b, e)] }
  | f => acc.mulPlain f

def mul (acc : Factors) (f : Formula) : Option Factors :=
  match f with
  | .power (.number b) (.number (.exact q)) =>
    if q.den == 1 || q < 0 || !b.isExact then
      (scalarPower b (.exact q)).factors.foldlM mulOne acc
    else acc.mulOne f
  | f => acc.mulOne f

end Factors

mutual

def innerFactors : Formula → List Formula
  | product fs => allFactors fs
  | f => [f]

def allFactors : List Formula → List Formula
  | [] => []
  | f :: rest => innerFactors f ++ allFactors rest

end

def flatFactors (fs : List Formula) : List Formula :=
  fs.filter (fun f => !f.isProduct) ++ allFactors (fs.filter isProduct)

abbrev Exponents := List (Formula × Scalar)

def addPower (base exponent : Formula) : List (Formula × Exponents) → List (Formula × Exponents)
  | [] =>
    let (c, e) := exponent.split
    [(base, [(e, c)])]
  | (b, es) :: rest =>
    if same base b then
      let (c, e) := exponent.split
      (b, addTerm c e es) :: rest
    else (b, es) :: addPower base exponent rest

/-- Bases and exponents, the exponents of one base being added; `times` is a number times a
formula. -/
def gathered (times : Scalar → Formula → Formula) (powers : List (Formula × Formula)) :
    List (Formula × Formula) :=
  let byBase := powers.foldl (fun acc p => addPower p.1 p.2 acc) []
  byBase.flatMap fun p => p.2.map fun e => (p.1, times e.2 e.1)

def addBase (base : Scalar) (exponent : Formula) : List (Formula × Scalar) → List (Formula × Scalar)
  | [] => [(exponent, base)]
  | (e, m) :: rest =>
    if same exponent e then (e, m.mul base) :: rest else (e, m) :: addBase base exponent rest

def scalar : Formula → Scalar
  | number n => n
  | _ => .one

def hasInfinity : Formula → Bool
  | sum fs | product fs => fs.any fun f =>
    match f with
    | constant .infinity => true
    | number (.infinite _) => true
    | _ => false
  | _ => false

def isZeroNumber : Formula → Bool
  | number n => n.isZero
  | _ => false

/-- The factors that collected powers give, the numbers among them, and whether a base has changed;
`none` if an infinity cancels out. -/
def raised (pow : Formula → Formula → Formula) : List (Formula × Formula) →
    Option (Scalar × List Formula × List (Formula × Formula) × Bool)
  | [] => some (.one, [], [], false)
  | (b, e) :: rest => do
    let (n, fs, powers, changed) ← raised pow rest
    if e.isZeroNumber then
      if b.hasInfinity then none else return (n, fs, powers, changed)
    else if e.isOne then
      match b with
      | number m => return (m.mul n, fs, powers, changed)
      | b => return (n, b :: fs, (b, e) :: powers, changed)
    else
      let p := pow b e
      match p, b with
      | power .., power .. => return (n, p :: fs, (b, e) :: powers, changed)
      | power .., _ =>
        let (b', e') := p.baseExponent
        return (n, p :: fs, (b', e') :: powers, changed || !same b b')
      | _, _ => return (n, p :: fs, (b, e) :: powers, changed)

def repeatsBase : List (Formula × Formula) → Bool
  | [] => false
  | (b, _) :: rest => rest.any (fun p => same b p.1) || repeatsBase rest

def raisedTwice (times : Scalar → Formula → Formula) (pow : Formula → Formula → Formula)
    (powers : List (Formula × Formula)) : Option (Scalar × List Formula) := do
  let (n, fs, again, changed) ← raised pow (gathered times powers)
  if changed && repeatsBase again then
    let (m, fs, _, _) ← raised pow (gathered times again)
    return (n.mul m, fs)
  else return (n, fs)

def besideSigned : List Formula → Bool × List Formula
  | [] => (false, [])
  | f :: rest =>
    let (flipped, others) := besideSigned rest
    let facts := f.facts
    if facts.positive == some true then (flipped, others)
    else if facts.negative == some true then (!flipped, others)
    else (flipped, f :: others)

def staysUnbounded (f : Formula) : Bool :=
  let facts := f.facts
  !(facts.zero == some false && facts.real.isSome)

def assembled (n : Scalar) (fs : List Formula) : List Formula :=
  let numbers := fs.filterMap fun f => match f with
    | number m => some m
    | _ => none
  let others := sorted (fs.filter fun f => !f.isNumber)
  let c := numbers.foldl Scalar.mul n
  if c.isOne then others else number c :: others

/-- The product of collected factors; `times` is a number times a formula. -/
def ofFactorsOf (times : Scalar → Formula → Formula) (acc : Factors) (n : Scalar)
    (fs : List Formula) : Formula :=
  if acc.unbounded then
    let others := fs.filter staysUnbounded
    ofFactors (infinity :: sorted others)
  else
    match n with
    | .infinite negative =>
      let (flipped, others) := besideSigned fs
      ofFactors (assembled (.infinite (negative != flipped)) others)
    | n =>
      if n.isZero then
        if fs.any fun f => f.facts.finite == some false then undefined else number n
      else
        match assembled n fs with
        | [number c, sum ts] =>
          if c.isFinite then sumOf (ts.map (times c)) else product [number c, sum ts]
        | fs => ofFactors fs

def collectedProduct (times : Scalar → Formula → Formula) (pow : Formula → Formula → Formula)
    (fs : List Formula) : Formula :=
  let outcome : Option Formula := do
    let acc ← (flatFactors fs).foldlM Factors.mul Factors.empty
    let (n, powers) ← raisedTwice times pow acc.powers
    let bases := (gathered times acc.exponentials).foldl
      (fun bs p => addBase p.1.scalar p.2 bs) []
    let exponentials := (bases.filter fun b => !b.1.isZeroNumber).map fun b =>
      pow (number b.2) b.1
    let (factor, roots) := Radical.collect acc.roots
    let (negated, turned) := Radical.withTurn acc.turn roots
    let c := (acc.number.mul n).mul (.exact (if negated then -factor else factor))
    return ofFactorsOf times acc c (powers ++ exponentials ++ turned)
  outcome.getD undefined

def numberTimesSum? (a : Scalar) (f : Formula) : Option Formula :=
  match f.split with
  | (r, sum ts) =>
    if r.isOne then some (sumOf (ts.map (keepNumber a)))
    else
      let c := a.mul r
      some (if c.isOne then sum ts else product [number c, sum ts])
  | _ => none

def nonzero? : Formula → Option Scalar
  | number (.exact q) => if q == 0 then none else some (.exact q)
  | _ => none

def distributed? (f g : Formula) : Option Formula :=
  match nonzero? g, nonzero? f with
  | some a, _ => numberTimesSum? a f
  | none, some a => numberTimesSum? a g
  | none, none => none

/-! ### Powers of sums and products -/

def pureComplex? : Formula → Option (Scalar × Scalar)
  | sum [number r, product [number i, constant .imaginaryUnit]] => some (r, i)
  | sum [number r, constant .imaginaryUnit] => some (r, .one)
  | _ => none

def largest (cs : List Scalar) : Scalar :=
  cs.foldl (fun big c => if c.abs.compare? big != some .lt then c.abs else big) (.ofInt (-1))

def relativeTo (big : Scalar) (c : Scalar) : Scalar :=
  if c.sameValue big then .one
  else if c.sameValue big.neg then .ofInt (-1)
  else c.div big

/-- Factors sorted by what is known of their signs. -/
structure Signs where
  nonnegative : List Formula
  negative : List Formula
  others : List Formula
  turns : Nat

def signsOf : List Formula → Signs
  | [] => ⟨[], [], [], 0⟩
  | f :: rest =>
    let s := signsOf rest
    match f with
    | constant .imaginaryUnit => { s with turns := s.turns + 1 }
    | f =>
      let facts := f.facts
      if facts.isNonnegative then { s with nonnegative := f :: s.nonnegative }
      else if facts.negative == some true || facts.real == some false then
        { s with negative := f :: s.negative }
      else { s with others := f :: s.others }

/-- Factors of which two imaginary units have become a minus sign. -/
def turned (s : Signs) : Signs :=
  let s :=
    if s.turns % 4 < 2 then s
    else
      match s.negative.getLast? with
      | some f =>
        let g := neg f
        { s with
          negative := s.negative.dropLast
          nonnegative := if g.isOne then s.nonnegative else s.nonnegative ++ [g] }
      | none => { s with negative := [int (-1)] }
  if s.turns % 2 == 1 then { s with others := s.others ++ [imaginaryUnit] } else s

def separated (s : Signs) : List Formula × List Formula :=
  match s.negative with
  | [] => (s.nonnegative, s.others)
  | [n] =>
    if s.others.isEmpty then (s.nonnegative, [n])
    else
      match n with
      | number m =>
        if m == .ofInt (-1) then (s.nonnegative, s.others ++ [n])
        else (s.nonnegative ++ [number m.neg], s.others ++ [int (-1)])
      | n => (s.nonnegative, s.others ++ [n])
  | n :: rest =>
    let kept := s.others.isEmpty && n.isNumber
    let negative := if kept then rest else n :: rest
    let o := if kept then n else one
    let o := if negative.length % 2 == 1 then neg o else o
    (s.nonnegative ++ negative.map neg, if o.isOne then s.others else s.others ++ [o])

/-- A power with the given parts, the product in its base being multiplied out; `times` multiplies
formulas. -/
def distributedPower (times : List Formula → Formula) (pow : Formula → Formula → Formula)
    (fs : List Formula) (e : Formula) : Formula :=
  let (free, together) := separated (turned (signsOf fs))
  let rational := e.isExact
  let known := free.filter fun f => rational && match f with
    | power (number _) (number (.exact _)) => true
    | _ => false
  let raw := free.filter fun f => !(rational && match f with
    | power (number _) (number (.exact _)) => true
    | _ => false)
  let first := times (known.map fun f => pow f e)
  let second := times [first, times (raw.map fun f => power f e)]
  if together.isEmpty then second else times [second, power (times together) e]

def exponentsMultiply (b e other : Formula) : Bool :=
  if other.facts.integer == some true then true
  else if e.facts.real == some true then
    match e.approximateReal? with
    | some v => (-1 < v && v < 1) || b.facts.isNonnegative
    | none => b.facts.isNonnegative
  else false

def unitPower (n : Int) : Formula :=
  match (n % 4).toNat with
  | 0 => one
  | 1 => imaginaryUnit
  | 2 => int (-1)
  | _ => product [int (-1), imaginaryUnit]

def unitRoot (q : Rat) : Formula :=
  let turns := (q / 2).floor
  let p := power imaginaryUnit (rat (q - 2 * turns))
  if turns % 2 == 0 then p else product [int (-1), p]

def exp (f : Formula) : Formula :=
  match f with
  | number (.exact q) => if q == 0 then one else if q == 1 then constant .e else apply .exp [f]
  | number (.approx x) =>
    match Constant.e.value?.bind fun v => approximatePower? v x.toRat with
    | some v => number (.computed (.ofRat v))
    | none => apply .exp [f]
  | number (.infinite negative) => if negative then zero else f
  | number .undefined | constant .infinity => undefined
  | f => apply .exp [f]

def constantPower (c : Constant) (e : Formula) : Formula :=
  match c, e with
  | .infinity, number n =>
    if n.isZero then undefined else if n.isPositive then infinity else zero
  | .imaginaryUnit, number (.exact q) => if q.den == 1 then unitPower q.num else unitRoot q
  | .e, e => exp e
  | c, e => power (constant c) e

def zeroPower (e : Formula) : Formula :=
  let facts := e.facts
  if facts.positive == some true then zero
  else if facts.negative == some true then infinity
  else if facts.real == some false then undefined
  else
    let (c, rest) := e.split
    if c.isNegative then power infinity rest else power zero rest

def numberPower (b : Scalar) (e : Formula) : Formula :=
  let facts := e.facts
  match b with
  | .exact q =>
    if q == 0 then zeroPower e
    else if q == -1 && facts.even == some true then one
    else if q == -1 && facts.even == some false && facts.integer == some true then int (-1)
    else if q < 0 && facts.even == some true then power (rat (-q)) e
    else power (number b) e
  | .infinite false =>
    if facts.positive == some true then number b
    else if facts.negative == some true then zero
    else power (number b) e
  | b => power (number b) e

def unboundedPower? (b e : Formula) : Option Formula :=
  match b, e with
  | number _, _ => none
  | b, number (.infinite negative) =>
    match b.approximateReal? with
    | some v =>
      let v := if negative && v != 0 then v⁻¹ else v
      if 1 < v then some (number (.infinite false))
      else if -1 < v && v < 1 then some zero
      else if v < -1 then some infinity
      else none
    | none => none
  | _, _ => none

def isNegatedConstant : Formula → Bool
  | product (number n :: rest) => n.isNegative && !anySymbol rest
  | _ => false

mutual

/-- The product of some formulas; the calls for powers nest at most `fuel` deep. -/
def productWithin (fuel : Nat) (fs : List Formula) : Formula :=
  match fuel with
  | 0 => ofFactors fs
  | fuel + 1 =>
    let times (c : Scalar) (f : Formula) : Formula := productWithin fuel [number c, f]
    let pow (b e : Formula) : Formula := powerWithin fuel b e
    match fs.filter fun f => !f.isOne with
    | [] => one
    | [f] => f
    | [f, g] => (distributed? f g).getD (collectedProduct times pow [f, g])
    | fs => collectedProduct times pow fs

/-- A formula raised to the power of another; the calls for products nest at most `fuel` deep. -/
def powerWithin (fuel : Nat) (b e : Formula) : Formula :=
  match fuel with
  | 0 => power b e
  | fuel + 1 =>
    let times (fs : List Formula) : Formula := productWithin fuel fs
    let pow (b e : Formula) : Formula := powerWithin fuel b e
    match e with
    | constant .infinity => undefined
    | e =>
    if e.isZero then one
    else if e.isOne then b
    else if e.equals (int (-1)) && b.isZeroNumber then infinity
    else if b.same undefined || e.same undefined then undefined
    else
    match unboundedPower? b e with
    | some f => f
    | none =>
    match b, e with
    | number m, number n => scalarPower m n
    | number m, e =>
      if m.isOne then (if e.facts.finite == some false then undefined else one) else numberPower m e
    | constant c, e => constantPower c e
    | sum ts, number n =>
      match pureComplex? (sum ts) with
      | some (r, i) =>
        if n == .ofInt (-1) then
          let square := (r.mul r).add (i.mul i)
          ofFactors (assembled square.inverse
            [sumOf [number r, times [number i.neg, imaginaryUnit]]])
        else power (sum ts) e
      | none =>
      let parts := ts.map split
      let cs := parts.map Prod.fst
      let big := largest cs
      if n.abs.isOne || n.abs.sameValue .one || (n.isExact && !anySymbol ts) ||
          !cs.any Scalar.isApprox || !big.isPositive || big.sameValue .one then power (sum ts) e
      else
        let terms := parts.map fun p => times [number (relativeTo big p.1), p.2]
        times [scalarPower big n, pow (sumOf terms) e]
    | product fs, number n =>
      match n.int? with
      | some k =>
        if (product fs).isNegatedConstant then
          let positive := pow (neg (product fs)) e
          if k % 2 == 0 then positive else neg positive
        else times [times (fs.map fun f => power f e), power one e]
      | none =>
        if n.isFinite then distributedPower times pow fs e else power (product fs) e
    | power b' e', e =>
      if exponentsMultiply b' e' e then pow b' (times [e', e]) else power b e
    | apply .exp [f], e =>
      if e.facts.integer == some true then exp (times [f, e]) else power b e
    | b, e => power b e

end

def callBound (fs : List Formula) : Nat := 60 + 6 * sizeAll fs

def productOf (fs : List Formula) : Formula := productWithin (callBound fs) fs

def pow (b e : Formula) : Formula := powerWithin (callBound [b, e]) b e

def mul (f g : Formula) : Formula := productOf [f, g]

def div (f g : Formula) : Formula :=
  match f, g with
  | number m, number n =>
    if n.isZero || !n.isFinite || !m.isFinite then productOf [f, pow g (int (-1))]
      else number (m.div n)
  | f, g =>
    let below := pow g (int (-1))
    if f.isOne then below else productOf [f, below]

end DataDiagram.Symbolic.Formula
