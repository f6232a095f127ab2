import DataDiagram.Symbolic.Facts
import DataDiagram.Symbolic.NumberPower
/-!
# Sums of formulas

Like terms are collected: their coefficients are added, in the order in which the terms come.
-/

namespace DataDiagram.Symbolic.Formula

/-- Terms that are being added up. -/
structure Terms where
  number : Scalar
  unbounded : Bool
  /-- The other terms with their coefficients, in the order of first occurrence. -/
  others : List (Formula × Scalar)

namespace Terms

def empty : Terms := ⟨.zero, false, []⟩

end Terms

def addTerm (c : Scalar) (f : Formula) : List (Formula × Scalar) → List (Formula × Scalar)
  | [] => [(f, c)]
  | (g, d) :: rest => if same f g then (g, d.add c) :: rest else (g, d) :: addTerm c f rest

namespace Terms

/-- Terms with a number added; `none` if the sum has no value. -/
def addNumber (acc : Terms) (n : Scalar) : Option Terms :=
  if n == .undefined || (acc.unbounded && !n.isFinite) then none
  else if acc.unbounded then some acc
  else
    let m := acc.number.add n
    if m == .undefined then none else some { acc with number := m }

/-- Terms with one more, which is no sum; `none` if the sum has no value. -/
def add (acc : Terms) (f : Formula) : Option Terms :=
  match f with
  | .number n => acc.addNumber n
  | .constant .infinity =>
    if acc.unbounded || !acc.number.isFinite then none else some { acc with unbounded := true }
  | f =>
    let (c, g) := f.split
    some { acc with others := addTerm c g acc.others }

end Terms

def pending? : Formula → Option Formula
  | power (number b) (number (.exact q)) =>
    if q.den == 1 || q < 0 then some (scalarPower b (.exact q)) else none
  | _ => none

mutual

def innerTerms : Formula → List Formula
  | sum ts => allTerms ts
  | f => [(pending? f).getD f]

def allTerms : List Formula → List Formula
  | [] => []
  | f :: rest => innerTerms f ++ allTerms rest

end

def flatTerms (fs : List Formula) : List Formula :=
  allTerms (fs.filter fun f => !f.isSum) ++ allTerms (fs.filter isSum)

def rebuildTerm (f : Formula) (c : Scalar) : Option Formula :=
  if c.isZero then none
  else if c.isOne then some f
  else
    match f with
    | product fs => some (product (number c :: fs))
    | f => some (product [number c, f])

def besideInfinity (negative : Bool) (f : Formula) : Bool :=
  let facts := f.facts
  !((if negative then facts.isNonpositive else facts.isNonnegative) ||
    (facts.real == some true && facts.finite == some true))

def besideUnbounded (f : Formula) : Bool :=
  let facts := f.facts
  !(facts.finite == some true && facts.real.isSome)

def ofCollected (acc : Terms) : Formula :=
  let others := acc.others.filterMap fun t => rebuildTerm t.1 t.2
  if acc.others.any fun t => t.2 == .undefined then undefined
  else if acc.unbounded then ofTerms (infinity :: sorted (others.filter besideUnbounded))
  else
    match acc.number with
    | .infinite negative =>
      ofTerms (number acc.number :: sorted (others.filter (besideInfinity negative)))
    | n => ofTerms (if n.isZero then sorted others else number n :: sorted others)

def collectedSum (fs : List Formula) : Formula :=
  match (flatTerms fs).foldlM Terms.add Terms.empty with
  | some acc => ofCollected acc
  | none => undefined

def isExact : Formula → Bool
  | number n => n.isExact
  | _ => false

def sumOf (fs : List Formula) : Formula :=
  match fs.filter fun f => !f.isZero with
  | [] => zero
  | [f] => f
  | [f, g] =>
    -- An exact number and a product are a sum already.
    if g.isExact && f.isProduct then sum [g, f]
    else if f.isExact && g.isProduct then sum [f, g]
    else collectedSum [f, g]
  | fs => collectedSum fs

/-! ### Negation and numbers in front -/

/-- The product with the opposite sign: the number in front is negated. -/
def negFactors : List Formula → List Formula
  | number n :: rest =>
    match rest with
    | constant .infinity :: _ => number n :: rest
    | number m :: more =>
      if n.isExact then number (m.mul n.neg) :: more
      else number n.neg :: rest
    | rest => if n.neg.isOne then rest else number n.neg :: rest
  | constant .infinity :: rest => constant .infinity :: rest
  | fs => int (-1) :: fs

mutual

def neg : Formula → Formula
  | number n => number n.neg
  | constant .infinity => infinity
  | sum ts => sumOf (negAll ts)
  | product fs => ofFactors (negFactors fs)
  | f => product [int (-1), f]

def negAll : List Formula → List Formula
  | [] => []
  | f :: rest => neg f :: negAll rest

end

def keepNumber (c : Scalar) (f : Formula) : Formula :=
  if f.isOne then number c
  else if c.isOne then f
  else if c == .ofInt (-1) then neg f
  else
    match f with
    | number n => number (c.mul n)
    | product (number n :: rest) =>
      let m := c.mul n
      if m.sameValue .one then ofFactors rest else product (number m :: rest)
    | product fs => product (number c :: fs)
    | f => product [number c, f]

def baseExponent : Formula → Formula × Formula
  | power (number (.exact q)) e =>
    if q.num == 1 && q.den != 1 then (int q.den, neg e) else (rat q, e)
  | power b e => (b, e)
  | apply .exp [e] => (constant .e, e)
  | f => (f, one)

def add (f g : Formula) : Formula := sumOf [f, g]

def sub (f g : Formula) : Formula := sumOf [f, neg g]

end DataDiagram.Symbolic.Formula
