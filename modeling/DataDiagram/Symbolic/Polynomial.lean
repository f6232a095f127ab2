import DataDiagram.Symbolic.SortKey
/-!
# Common divisors of formulas

Formulas as polynomials in what is no number, and the greatest polynomial that divides two of them.
-/

namespace DataDiagram.Symbolic

/-- A polynomial: exponents of the generators, in order, with coefficients other than zero.  The
first monomial is the greatest. -/
abbrev Polynomial := List (List Nat × Rat)

namespace Polynomial

def compareMonomials : List Nat → List Nat → Ordering
  | x :: xs, y :: ys => (Ord.compare x y).then (compareMonomials xs ys)
  | _, _ => .eq

def addMonomial (m : List Nat) (c : Rat) : Polynomial → Polynomial
  | [] => if c == 0 then [] else [(m, c)]
  | (n, d) :: rest =>
    match compareMonomials m n with
    | .gt => if c == 0 then (n, d) :: rest else (m, c) :: (n, d) :: rest
    | .eq => if c + d == 0 then rest else (n, c + d) :: rest
    | .lt => (n, d) :: addMonomial m c rest

def add (p q : Polynomial) : Polynomial := p.foldl (fun acc (m, c) => addMonomial m c acc) q

def mul (p q : Polynomial) : Polynomial :=
  p.foldl (fun acc (m, c) =>
    q.foldl (fun acc (n, d) => addMonomial (List.zipWith (· + ·) m n) (c * d) acc) acc) []

def scale (c : Rat) (p : Polynomial) : Polynomial := p.map fun (m, d) => (m, c * d)

/-- A natural power of a polynomial in `k` generators. -/
def power (k : Nat) (p : Polynomial) : (n : Nat) → Polynomial
  | 0 => [(List.replicate k 0, 1)]
  | n + 1 => mul p (power k p n)

/-- The greatest integer or fraction that divides all coefficients. -/
def content (p : Polynomial) : Rat :=
  p.foldl (fun acc (_, c) => if acc == 0 then (if c < 0 then -c else c) else Radical.ratGcd acc c) 0

def commonMonomial : Polynomial → List Nat
  | [] => []
  | (m, _) :: rest => rest.foldl (fun acc (n, _) => List.zipWith min acc n) m

def divideMonomial (m : List Nat) (p : Polynomial) : Polynomial :=
  p.map fun (n, c) => (List.zipWith (· - ·) n m, c)

def divides (m n : List Nat) : Bool := (List.zipWith (fun x y => decide (x ≤ y)) m n).all id

def remainder (divisor : Polynomial) : (fuel : Nat) → Polynomial → Polynomial
  | 0, p => p
  | fuel + 1, p =>
    match p, divisor with
    | (m, c) :: rest, (n, d) :: _ =>
      if divides n m then
        let quotient := [(List.zipWith (· - ·) m n, -(c / d))]
        remainder divisor fuel (add (mul quotient divisor) p)
      else (m, c) :: remainder divisor fuel rest
    | p, _ => p

def support (p : Polynomial) : List Bool :=
  match p with
  | [] => []
  | (m, _) :: rest =>
    rest.foldl (fun acc (n, _) => List.zipWith (fun a x => a || 0 < x) acc n) (m.map (0 < ·))

def primitive (p : Polynomial) : Polynomial :=
  match p with
  | [] => []
  | (_, c) :: _ =>
    let d := content p
    scale (if c < 0 then -d⁻¹ else d⁻¹) p

/-- The greatest common divisor of polynomials in one generator, by repeated division. -/
def euclid : (fuel : Nat) → Polynomial → Polynomial → Polynomial
  | 0, p, _ => primitive p
  | _, p, [] => primitive p
  | fuel + 1, p, q => euclid fuel q (remainder q (p.length * 50 + 200) p)

/-- The greatest common divisor of primitive polynomials: if they have more than one generator, only
one that is one of the two is found. -/
def primitiveGcd (k : Nat) (p q : Polynomial) : Polynomial :=
  let one : Polynomial := [(List.replicate k 0, 1)]
  let used := (List.zipWith (· || ·) (support p) (support q)).count true
  if used ≤ 1 then euclid 200 p q
  else if (remainder q 500 p).isEmpty then q
  else if (remainder p 500 q).isEmpty then p
  else one

/-- The greatest common divisor of polynomials in `k` generators.  Over the integers it has the
greatest content, over the fractions its first coefficient is one. -/
def gcd (k : Nat) (integral : Bool) (p q : Polynomial) : Polynomial :=
  match p, q with
  | [], q => q
  | p, [] => p
  | p, q =>
    let m := commonMonomial p
    let n := commonMonomial q
    let rest := primitiveGcd k (primitive (divideMonomial m p)) (primitive (divideMonomial n q))
    let shared := [(List.zipWith min m n, (1 : Rat))]
    let g := mul shared rest
    if integral then scale (Radical.ratGcd (content p) (content q)) g
    else
      match g with
      | (_, c) :: _ => scale c⁻¹ g
      | [] => []

end Polynomial

namespace Formula

/-- The base and the natural exponent of a factor of a monomial; a negative exponent makes a base of
its own. -/
def generatorPower (f : Formula) : Formula × Nat :=
  let (b, n) := decompose f
  if n < 0 then (pow b (int (-1)), n.natAbs) else (b, n.natAbs)

mutual

def generators : Formula → List Formula
  | number _ => []
  | sum ts => allGenerators ts
  | product fs => allGenerators fs
  | power b (number (.exact q)) =>
    if q.den == 1 && 0 < q.num then generators b
    else [(generatorPower (power b (number (.exact q)))).1]
  | f => [(generatorPower f).1]

def allGenerators : List Formula → List Formula
  | [] => []
  | f :: rest => generators f ++ allGenerators rest

end

def generatorPolynomial (gens : List Formula) (f : Formula) : Polynomial :=
  let (b, n) := generatorPower f
  [(gens.map fun g => if same g b then n else 0, 1)]

mutual

def polynomial (gens : List Formula) : Formula → Polynomial
  | number n =>
    let q := n.rat?.getD 0
    if q == 0 then [] else [(List.replicate gens.length 0, q)]
  | sum ts => polynomialSum gens ts
  | product fs => polynomialProduct gens fs
  | power b (number (.exact q)) =>
    if q.den == 1 && 0 < q.num then (polynomial gens b).power gens.length q.num.natAbs
    else generatorPolynomial gens (power b (number (.exact q)))
  | f => generatorPolynomial gens f

def polynomialSum (gens : List Formula) : List Formula → Polynomial
  | [] => []
  | f :: rest => (polynomial gens f).add (polynomialSum gens rest)

def polynomialProduct (gens : List Formula) : List Formula → Polynomial
  | [] => [(List.replicate gens.length 0, 1)]
  | f :: rest => (polynomial gens f).mul (polynomialProduct gens rest)

end

def ofPolynomial (gens : List Formula) (p : Polynomial) : Formula :=
  sumOf (p.map fun (m, c) =>
    productOf (rat c :: List.zipWith (fun g (n : Nat) => pow g (int n)) gens m))

mutual

def hasApprox : Formula → Bool
  | number n => n.isApprox
  | sum fs => anyApprox fs
  | product fs => anyApprox fs
  | apply _ fs => anyApprox fs
  | power b e => hasApprox b || hasApprox e
  | _ => false

def anyApprox : List Formula → Bool
  | [] => false
  | f :: rest => hasApprox f || anyApprox rest

end

def gcd (f g : Formula) : Formula :=
  let gens := ordered (distinct (generators f ++ generators g))
  let p := polynomial gens f
  let q := polynomial gens g
  let integral := (p ++ q).all fun m => m.2.den == 1
  if anyApprox [f, g] then
    -- Coefficients that are not exact have no divisors.
    let d := ofPolynomial gens (Polynomial.gcd gens.length false p q)
    if d.isOne then number (.approx (.ofRat 1)) else d
  else ofPolynomial gens (Polynomial.gcd gens.length integral p q)

/-! ### Common factors of terms -/

def termPowers (f : Formula) : Scalar × List (Formula × Int) :=
  let (c, g) := f.split
  (c, if g.isOne then [] else g.factors.map decompose)

def sharedPowers (xs ys : List (Formula × Int)) : List (Formula × Int) :=
  xs.filterMap fun (b, n) =>
    match ys.find? fun p => same p.1 b with
    | some (_, m) =>
      if 0 < n && 0 < m then some (b, min n m)
      else if n < 0 && m < 0 then some (b, max n m)
      else none
    | none => none

/-- A sum with what all its terms share in front: numbers stay inside if they would leave a
fraction. -/
def factorTerms (ts : List Formula) : Formula :=
  let parts := ts.map termPowers
  match parts with
  | [] => zero
  | (_, first) :: rest =>
    let shared := rest.foldl (fun acc p => sharedPowers acc p.2) first
    let exact := parts.all fun p => p.1.isExact
    let number := if exact then
        parts.foldl (fun acc p =>
          let q := p.1.rat?.getD 1
          if acc == 0 then (if q < 0 then -q else q) else Radical.ratGcd acc q) (0 : Rat)
      else 1
    let number := if number.den == 1 then number else 1
    let common := shared.map fun (b, n) => pow b (int n)
    let below := productOf (rat number⁻¹ :: shared.map fun (b, n) => pow b (int (-n)))
    let inner := sumOf (ts.map fun t => mul t below)
    keepNumber (.exact number) (productOf (common ++ [inner]))

def gcdTerms (f : Formula) : Formula :=
  match f with
  | sum ts => factorTerms ts
  | product fs =>
    let (c, g) := (product fs).split
    match c with
    | .exact _ =>
      keepNumber c (productOf (g.factors.map fun f => match f with
        | sum ts => factorTerms ts
        | f => f))
    | _ => f
  | f => f

end Formula

end DataDiagram.Symbolic
