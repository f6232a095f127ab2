import DataDiagram.Symbolic.SortKey
/-!
# Texts of formulas

A product is written with the number first and its negative powers as a denominator.  Parts that
bind less than their surroundings stand between parentheses.
-/

namespace DataDiagram.Symbolic.Formula

/-! ### How tightly formulas hold together -/

def sumBinding : Nat := 40

def productBinding : Nat := 50

def powerBinding : Nat := 60

def atomBinding : Nat := 1000

def scalarBinding : Scalar → Nat
  | .exact q =>
    if q.num < 0 then sumBinding else if q.den == 1 then atomBinding else productBinding
  | n => if n.isNegative then sumBinding else atomBinding

def functionBinding : Operation → Nat
  | .exclusive => 10
  | .disj => 20
  | .conj => 30
  | .less | .lessEq | .greater | .greaterEq => 35
  | .equal | .notEqual | .mod => productBinding
  | .floor | .ceiling | .abs | .realPart | .imaginaryPart | .sign | .exp | .log | .sin | .cos
  | .tan => 70
  | .negation => 100
  | .least | .greatest | .implication | .tuple => atomBinding

/-- How tightly a formula holds together: what binds less than its surroundings is put between
parentheses. -/
def binding : Formula → Nat
  | number n => scalarBinding n
  | symbol _ | constant _ | truth _ => atomBinding
  | sum _ => sumBinding
  | product fs => if hasMinus (product fs) then sumBinding else productBinding
  | power .. => powerBinding
  | apply op _ => functionBinding op

def enclosed (level : Nat) (f : Formula) (text : String) : String :=
  if f.binding ≤ level then "(" ++ text ++ ")" else text

/-! ### Fractions -/

def positiveExponent : Formula → Formula
  | number n => number n.neg
  | product (number n :: rest) =>
    if n == .ofInt (-1) then ofFactors rest else product (number n.neg :: rest)
  | e => e

def denominator? : Formula → Option Formula
  | power b e =>
    if e.split.1.isNegative then
      match positiveExponent e with
      | number n => some (if n.isOne then b else power b (number n))
      | e => some (power b e)
    else none
  | _ => none

def fractionParts : List Formula → List Formula × List Formula
  | [] => ([], [])
  | f :: rest =>
    let (above, below) := fractionParts rest
    match denominator? f with
    | some g => (above, g :: below)
    | none =>
      match f with
      | number (.exact q) =>
        (if q.num == 1 then above else int q.num :: above,
          if q.den == 1 then below else int q.den :: below)
      | f => (f :: above, below)

def isUncollected : List Formula → Bool
  | [] => false
  | f :: rest =>
    f.isOne || rest.any fun g =>
      match g with
      | number _ => true
      | power (number a) (number b) => a.int?.isSome && b.int?.isSome
      | _ => false

def fractionText (above below : List String) : String :=
  let top := if above.isEmpty then "1" else "*".intercalate above
  match below with
  | [] => top
  | [g] => top ++ "/" ++ g
  | gs => top ++ "/(" ++ "*".intercalate gs ++ ")"

/-! ### Sums -/

def joinTerms : List (String × Bool) → String
  | [] => ""
  | (first, inner) :: rest =>
    let piece (t : String) (inner : Bool) : String × String :=
      match inner, t.toList with
      | true, _ => ("+", "(" ++ t ++ ")")
      | false, '-' :: more => ("-", String.ofList more)
      | false, _ => ("+", t)
    let (sign, text) := piece first inner
    let start := (if sign == "-" then "-" else "") ++ text
    rest.foldl (fun acc (t, inner) =>
      let (sign, text) := piece t inner
      acc ++ " " ++ sign ++ " " ++ text) start

/-! ### Functions -/

def relationSign : Operation → String
  | .less => "<"
  | .lessEq => "<="
  | .greater => ">"
  | .greaterEq => ">="
  | _ => ""

/-- The text of a function with the texts of its arguments; `part` puts parentheses around an
argument at the given level. -/
def functionText (op : Operation) (args : List Formula) (text : Formula → String) : String :=
  let part (level : Nat) (f : Formula) : String := enclosed level f (text f)
  match op, args with
  | .conj, fs => " & ".intercalate ((ordered fs).map (part 38))
  | .disj, fs => " | ".intercalate ((ordered fs).map (part 36))
  | .exclusive, fs => " ^ ".intercalate ((ordered fs).map (part 37))
  | .negation, [f] => "~" ++ part 100 f
  | .equal, [f, g] => "Eq(" ++ text f ++ ", " ++ text g ++ ")"
  | .notEqual, [f, g] => "Ne(" ++ text f ++ ", " ++ text g ++ ")"
  | .tuple, [f] => "(" ++ text f ++ ",)"
  | .tuple, fs => "(" ++ ", ".intercalate (fs.map text) ++ ")"
  | .least, fs | .greatest, fs => op.kind ++ "(" ++ ", ".intercalate ((ordered fs).map text) ++ ")"
  | op, [f, g] =>
    if op.isRelation then part 35 f ++ " " ++ relationSign op ++ " " ++ part 35 g
    else op.kind ++ "(" ++ text f ++ ", " ++ text g ++ ")"
  | op, fs => op.kind ++ "(" ++ ", ".intercalate (fs.map text) ++ ")"

/-- The text of a formula that nests at most `depth` deep and is part of another. -/
def textAt : (depth : Nat) → Formula → String
  | 0, _ => ""
  | _ + 1, number n => scalarText n
  | _ + 1, symbol name => name
  | _ + 1, constant c => c.text
  | _ + 1, truth b => if b then "True" else "False"
  | depth + 1, sum ts =>
    joinTerms ((orderedTerms key ts).map fun t => (textAt depth t, t.isSum))
  | depth + 1, product fs =>
    let level := binding (product fs)
    let part (f : Formula) : String := enclosed level f (textAt depth f)
    if isUncollected fs then
      let above := fs.filter fun f => (denominator? f).isNone
      let below := fs.filterMap denominator?
      let tops := match above with
        | [] => []
        | f :: rest => (if hasMinus f && !f.isSum then textAt depth f else part f) :: rest.map part
      fractionText tops (below.map part)
    else
      let (c, g) := (product fs).split
      let factors := if c.isNegative then (keepNumber c.neg g).factors else fs
      let (above, below) := fractionParts (ordered factors)
      (if c.isNegative then "-" else "") ++ fractionText (above.map part) (below.map part)
  | depth + 1, power b e =>
    let base := enclosed powerBinding b (textAt depth b)
    match e with
    | number (.exact q) =>
      if q == mkRat 1 2 then "sqrt(" ++ textAt depth b ++ ")"
      else if q == mkRat (-1) 2 then "1/sqrt(" ++ textAt depth b ++ ")"
      else if q == -1 then "1/" ++ base
      else base ++ "**" ++ enclosed powerBinding e (textAt depth e)
    | e => base ++ "**" ++ enclosed powerBinding e (textAt depth e)
  | depth + 1, apply op fs => functionText op fs (textAt depth)

def text (f : Formula) : String :=
  match f with
  | number (.approx x) => x.text
  | f => textAt (f.depth + 3) f

end DataDiagram.Symbolic.Formula
