import DataDiagram.Symbolic.Product
/-!
# The order of written formulas

Terms are written by falling powers of their symbols, factors by kind and name.  Both follow a key
that a formula has: its kind, its parts, its exponent and the number in front.
-/

namespace DataDiagram.Symbolic

def compareRats (p q : Rat) : Ordering := if p < q then .lt else if q < p then .gt else .eq

/-- What formulas are sorted by when they are written. -/
inductive Key
  | text (s : String)
  | node (rank sub : Nat) (kind : String) (parts : List Key) (exponent : List Key) (number : Scalar)
  deriving Inhabited

namespace Key

mutual

def compare : Key → Key → Ordering
  | text s, text t => Text.compareTexts s t
  | node r u k ps es n, node r' u' k' ps' es' n' =>
    (Ord.compare r r').then ((Ord.compare u u').then ((Text.compareTexts k k').then
      ((Ord.compare ps.length ps'.length).then ((compareAll ps ps').then
        ((compareAll es es').then ((n.compare? n').getD .eq))))))
  | text _, node .. => .lt
  | node .., text _ => .gt

def compareAll : List Key → List Key → Ordering
  | [], [] => .eq
  | [], _ :: _ => .lt
  | _ :: _, [] => .gt
  | x :: xs, y :: ys => (compare x y).then (compareAll xs ys)

end

end Key

namespace Formula

/-! ### Order of terms -/

def decompose (f : Formula) : Formula × Int :=
  match f.baseExponent with
  | (b, number (.exact q)) =>
    if q.den == 1 then (b, q.num) else (power b (rat (mkRat 1 q.den)), q.num)
  | (_, number _) => (f, 1)
  | (b, e) =>
    match e.split with
    | (.exact q, tail) =>
      if q == 1 then (f, 1)
      else if q == -1 then (power b tail, -1)
      else (power b (keepNumber (.exact (mkRat 1 q.den)) tail), q.num)
    | (n, tail) => if n.isNegative then (power b (keepNumber n.neg tail), -1) else (f, 1)

/-- A term of a sum as a number times powers. -/
structure Monomial where
  term : Formula
  re : Rat
  im : Rat
  powers : List (Formula × Int)

def monomialParts :
    List Formula → Rat × Rat × List (Formula × Int) → Rat × Rat × List (Formula × Int)
  | [], acc => acc
  | f :: rest, (a, b, powers) =>
    if f.hasSymbol then monomialParts rest (a, b, powers ++ [decompose f])
    else
      match f.approximate? with
      | some (c, d) => monomialParts rest (a * c - b * d, a * d + b * c, powers)
      | none => monomialParts rest (a, b, powers)

def monomial (f : Formula) : Monomial :=
  let (c, g) := f.split
  let (re, im, powers) :=
    monomialParts (if g.isOne then [] else g.factors) (c.rat?.getD 1, 0, [])
  ⟨f, re, im, powers⟩

def distinct (fs : List Formula) : List Formula :=
  fs.foldl (fun acc f => if acc.any (same f) then acc else acc ++ [f]) []

def exponentsIn (bases : List Formula) (m : Monomial) : List Int :=
  bases.map fun b =>
    match m.powers.find? fun p => same p.1 b with
    | some p => p.2
    | none => 0

def compareExponents : List Int → List Int → Ordering
  | x :: xs, y :: ys => (Ord.compare y x).then (compareExponents xs ys)
  | _, _ => .eq

/-- The numbers of two terms in order: real ones come first. -/
def compareNumbers (m n : Monomial) : Ordering :=
  (Ord.compare (m.im != 0).toNat (n.im != 0).toNat).then
    ((compareRats m.im n.im).then (compareRats m.re n.re))

/-- Terms of a sum in the order of their powers of `bases`. -/
def byPowers (bases : List Formula) (ms : List Monomial) : List Formula :=
  let keyed := ms.map fun m => (exponentsIn bases m, m)
  let le (m n : List Int × Monomial) : Bool :=
    ((compareExponents m.1 n.1).then (compareNumbers m.2 n.2)) != .gt
  (keyed.mergeSort le).map fun m => m.2.term

def isNumeral : Formula → Bool
  | number _ => true
  | constant c => c.value?.isSome
  | _ => false

def positiveFirst? (ts : List Formula) : Option (List Formula) :=
  match ts.filter isNumeral ++ ts.filter fun t => !t.isNumeral with
  | [c, product fs] =>
    match fs.filter isNumeral ++ fs.filter fun f => !f.isNumeral with
    | [number d, _] =>
      if c.isNumeral && c.facts.positive == some true && d.isNegative then some [c, product fs]
      else none
    | _ => none
  | _ => none

def sortedBy (key : Formula → Key) (fs : List Formula) : List Formula :=
  let keyed := fs.map fun f => (key f, f)
  (keyed.mergeSort fun f g => f.1.compare g.1 != .gt).map Prod.snd

def orderedTerms (key : Formula → Key) (ts : List Formula) : List Formula :=
  match positiveFirst? ts with
  | some ts => ts
  | none =>
    let ms := ts.map monomial
    let bases := sortedBy key (distinct (ms.flatMap fun m => m.powers.map Prod.fst))
    byPowers bases ms

/-! ### Keys -/

def functionRank : Operation → Nat × Nat
  | .exp => (4, 10)
  | .log => (4, 11)
  | .sin => (4, 20)
  | .cos => (4, 21)
  | .tan => (4, 22)
  | .mod | .floor | .ceiling | .abs | .realPart | .imaginaryPart | .sign => (4, 10000)
  | _ => (5, 0)

def kindKey : Formula → Nat × Nat × String
  | number _ => (1, 0, "Number")
  | constant c => (2, 0, c.kind)
  | symbol _ => (2, 0, "Symbol")
  | truth b => (5, 0, if b then "BooleanTrue" else "BooleanFalse")
  | product _ => (3, 0, "Mul")
  | sum _ => (3, 1, "Add")
  | power .. => (3, 2, "Pow")
  | apply op _ =>
    let (rank, sub) := functionRank op
    (rank, sub, op.kind)

def scalarText : Scalar → String
  | .exact q => if q.den == 1 then toString q.num else toString q.num ++ "/" ++ toString q.den
  | .approx x => x.innerText
  | .infinite negative => if negative then "-oo" else "oo"
  | .undefined => "nan"

/-- The key of a formula that nests at most `depth` deep. -/
def keyAt : (depth : Nat) → Formula → Key
  | 0, _ => .text ""
  | _ + 1, number n => .node 1 0 "Number" [] [] n
  | depth + 1, f =>
    let (c, g) := f.split
    let (b, e) := match g with
      | power b e => (b, e)
      | g => (g, one)
    let parts := match b with
      | number n => [Key.text (scalarText n)]
      | symbol name => [.text name]
      | constant c => [.text c.text]
      | truth b => [.text (if b then "True" else "False")]
      | sum ts => (orderedTerms (keyAt depth) ts).map (keyAt depth)
      | product fs => (sortedBy (keyAt depth) fs).map (keyAt depth)
      | power a b => [keyAt depth a, keyAt depth b]
      | apply _ fs => fs.map (keyAt depth)
    let (rank, sub, kind) := kindKey b
    .node rank sub kind parts [keyAt depth e] c

def key (f : Formula) : Key := keyAt (f.depth + 1) f

def ordered (fs : List Formula) : List Formula := sortedBy key fs

/-! ### Minus signs -/

mutual

/-- Whether a formula has a minus sign in front, or as a sum more terms with one than without; if
there are as many, its key decides. -/
def hasMinus : Formula → Bool
  | number n => n.isNegative
  | product (number _ :: constant .infinity :: _) => false
  | product (number n :: _) => n.isNegative
  | sum ts =>
    let negative := countMinus ts
    let positive := ts.length - negative
    if negative < positive then false
    else if positive < negative then true
    else ((sum ts).key.compare (neg (sum ts)).key) == .lt
  | _ => false

def countMinus : List Formula → Nat
  | [] => 0
  | f :: rest => (if hasMinus f then 1 else 0) + countMinus rest

end

end Formula

end DataDiagram.Symbolic
