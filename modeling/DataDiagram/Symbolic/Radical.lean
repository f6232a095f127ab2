import DataDiagram.Symbolic.Formula
/-!
# Roots of numbers

A fractional power of a number is an integer or a fraction times roots that cannot be taken: perfect
powers are taken out, and roots of one exponent are put together.
-/

namespace DataDiagram.Symbolic.Radical

def rootFrom (n degree : Nat) : (bit root : Nat) → Nat
  | 0, root => if Nat.pow (root + 1) degree ≤ n then root + 1 else root
  | bit + 1, root =>
    let more := root + Nat.pow 2 (bit + 1)
    if Nat.pow more degree ≤ n then rootFrom n degree bit more else rootFrom n degree bit root

def natRoot (n degree : Nat) : Nat := if n == 0 then 0 else rootFrom n degree (n.log2 / degree) 0

/-- The root of a number whose given power it is with the greatest exponent up to `k`, and that
exponent. -/
def perfectPowerUpTo (n : Nat) : (k : Nat) → Option (Nat × Nat)
  | 0 => none
  | k + 1 =>
    if k == 0 then none
    else
      let root := natRoot n (k + 1)
      if Nat.pow root (k + 1) == n then some (root, k + 1) else perfectPowerUpTo n k

def perfectPower? (n : Nat) : Option (Nat × Nat) :=
  if n < 4 then none else perfectPowerUpTo n n.log2

def takeOut (divisor : Nat) : (fuel n count : Nat) → Nat × Nat
  | 0, n, count => (count, n)
  | fuel + 1, n, count =>
    if n % divisor == 0 then takeOut divisor fuel (n / divisor) (count + 1) else (count, n)

/-- The factors of a number from `divisor` on with their exponents; what has no small divisor stays
together. -/
def factorsFrom : (fuel divisor n : Nat) → List (Nat × Nat)
  | 0, _, n => if 1 < n then [(n, 1)] else []
  | fuel + 1, divisor, n =>
    if n ≤ 1 then []
    else if n < divisor * divisor then [(n, 1)]
    else if n % divisor == 0 then
      let (count, rest) := takeOut divisor n.log2 n 0
      (divisor, count) :: factorsFrom fuel (divisor + 1) rest
    else factorsFrom fuel (divisor + 1) n

def divisorLimit : Nat := Nat.pow 2 15

def factorsOf (n : Nat) : List (Nat × Nat) :=
  match perfectPower? n with
  | some p => [p]
  | none => factorsFrom divisorLimit 2 n

abbrev Root := Rat × Rat

/-- `n ^ (p / q)` as an integer times roots. -/
def natPower (n p q : Nat) : Nat × List Root :=
  let root := natRoot n q
  if Nat.pow root q == n then (Nat.pow root p, [])
  else
    let parts := (factorsOf n).map fun (prime, count) => (prime, count * p / q, count * p % q)
    let outside := parts.foldl (fun acc (prime, whole, _) => acc * Nat.pow prime whole) 1
    let shared := parts.filterMap fun (prime, _, rest) =>
      let g := Nat.gcd rest q
      if 0 < rest && g != 1 then some ((prime : Rat), mkRat (rest / g : Nat) (q / g)) else none
    let others := parts.filter fun (_, _, rest) => 0 < rest && Nat.gcd rest q == 1
    let common : Nat := others.foldl (fun acc (_, _, rest) => Nat.gcd acc rest) 0
    let base : Nat :=
      others.foldl (fun acc (prime, _, rest) => acc * Nat.pow prime (rest / common)) 1
    (outside, shared ++ if others.isEmpty then [] else [((base : Rat), mkRat common q)])

def addRoot (root : Root) : List Root → List Root
  | [] => [root]
  | (b, e) :: rest => if e == root.2 then (b * root.1, e) :: rest else (b, e) :: addRoot root rest

def ratPower (b e : Rat) : Rat × List Root :=
  let (whole, roots) := natPower b.num.natAbs e.num.natAbs e.den
  if b.den == 1 then ((whole : Rat), roots)
  else
    let k := e.floor.toNat + 1
    let rest : Rat := (k : Rat) - e
    let (whole', roots') := natPower b.den rest.num.natAbs rest.den
    ((whole * whole' : Nat) / ((Nat.pow b.den k : Nat) : Rat),
      (roots ++ roots').foldl (fun acc r => addRoot r acc) [])

def ratGcd (p q : Rat) : Rat := mkRat (Nat.gcd p.num.natAbs q.num.natAbs) (Nat.lcm p.den q.den)

/-- A number, and roots that are to be put together with the others. -/
structure Collected where
  factor : Rat
  roots : List Root

def reduced (b e : Rat) (c : Collected) : Collected :=
  if e.den == 1 then { c with factor := c.factor * b ^ e.num.toNat }
  else if 1 < e then
    let whole := e.floor
    { factor := c.factor * b ^ whole.toNat, roots := c.roots ++ [(b, e - whole)] }
  else { c with roots := c.roots ++ [(b, e)] }

def shareOut (b e : Rat) : List Root → Collected → Rat × List Root × Collected
  | [], c => (b, [], c)
  | (b', e') :: rest, c =>
    let g := ratGcd b b'
    if g == 1 || b == 1 then
      let (left, others, c) := shareOut b e rest c
      (left, (b', e') :: others, c)
    else
      let (left, others, c) := shareOut (b / g) e rest (reduced g (e + e') c)
      (left, (b' / g, e') :: others, c)

/-- Roots put together, bases that share a factor first being split. -/
def settle : (fuel : Nat) → List Root → Collected → Collected
  | 0, roots, c => { c with roots := c.roots ++ roots }
  | _, [], c => c
  | fuel + 1, (b, e) :: rest, c =>
    if b == 1 then settle fuel rest c
    else
      let (left, others, grown) := shareOut b e rest ⟨c.factor, []⟩
      let (factor, roots) := if left == 1 then (1, []) else ratPower left e
      settle fuel (others ++ grown.roots)
        ⟨grown.factor * factor, roots.foldl (fun acc r => addRoot r acc) c.roots⟩

def addExponent (b e : Rat) : List Root → List Root
  | [] => [(b, e)]
  | (b', e') :: rest => if b == b' then (b', e' + e) :: rest else (b', e') :: addExponent b e rest

def collect (powers : List Root) : Rat × List Root :=
  let byBase := powers.foldl (fun acc (b, e) => addExponent b e acc) []
  let byExponent := byBase.foldl (fun acc r => addRoot r acc) []
  let start := byExponent.foldl (fun c (b, e) => reduced b e c) ⟨1, []⟩
  let c := settle (10 * start.roots.length + 10) start.roots ⟨start.factor, []⟩
  c.roots.foldl (fun (factor, roots) (b, e) =>
    let (more, rs) := ratPower b e
    (factor * more, roots ++ rs)) (c.factor, [])

def toFormulas (roots : List Root) : List Formula :=
  roots.map fun (b, e) => .power (.rat b) (.rat e)

/-- The root with the given exponent gets a negative base; `none` if there is none. -/
def turnRoot? (turn : Rat) : List Root → Option (List Root)
  | [] => none
  | (b, e) :: rest =>
    if e == turn && 0 < b then some ((-b, e) :: rest) else (turnRoot? turn rest).map ((b, e) :: ·)

def withTurn (turn : Rat) (roots : List Root) : Bool × List Formula :=
  let whole := turn.floor
  let rest := turn - whole
  let factors :=
    if rest == 0 then toFormulas roots
    else if rest == mkRat 1 2 then .imaginaryUnit :: toFormulas roots
    else
      match turnRoot? rest roots with
      | some roots => toFormulas roots
      | none => .power (.int (-1)) (.rat rest) :: toFormulas roots
  (whole % 2 != 0, factors)

def power (b e : Rat) : Formula :=
  let size := if b < 0 then -b else b
  let (size, positive) := if e < 0 then (size⁻¹, -e) else (size, e)
  let (factor, roots) := ratPower size positive
  let (more, roots) := collect roots
  let (negated, factors) := withTurn (if b < 0 then e else 0) roots
  let n := if negated then -(factor * more) else factor * more
  let factors := Formula.sorted factors
  Formula.ofFactors (if n == 1 then factors else .rat n :: factors)

end DataDiagram.Symbolic.Radical
