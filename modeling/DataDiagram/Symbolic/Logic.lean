import DataDiagram.Symbolic.Function
/-!
# Logic of formulas

Comparisons of formulas, and connectives of comparisons and symbols.
-/

namespace DataDiagram.Symbolic.Formula

def isLogical : Formula → Bool
  | symbol _ | truth _ => true
  | apply op _ => op.isLogical
  | _ => false

def isArithmetical : Formula → Bool
  | truth _ => false
  | apply op _ => !op.isLogical && op != .tuple
  | _ => true

/-! ### Comparisons -/

def exchanged : Operation → Operation
  | .less => .greater
  | .lessEq => .greaterEq
  | .greater => .less
  | .greaterEq => .lessEq
  | op => op

def opposite : Operation → Operation
  | .less => .greaterEq
  | .lessEq => .greater
  | .greater => .lessEq
  | .greaterEq => .less
  | .equal => .notEqual
  | .notEqual => .equal
  | op => op

def fits (op : Operation) (o : Ordering) : Bool :=
  match op with
  | .less => o == .lt
  | .lessEq => o != .gt
  | .greater => o == .gt
  | .greaterEq => o != .lt
  | .equal => o == .eq
  | _ => o != .eq

def order? (f g : Formula) : Option Ordering :=
  match f, g with
  | number m, number n => m.compare? n
  | f, g =>
    if f.facts.real == some true && g.facts.real == some true then
      (sub f g).approximateReal?.map fun v => compareRats v 0
    else none

/-- The comparison of two formulas, decided if their order is known; `none` if they cannot be
compared. -/
def relate (op : Operation) (f g : Formula) : Option Formula :=
  if f.facts.real == some false || g.facts.real == some false || f.same undefined ||
      g.same undefined then none
  else
    match order? f g with
    | some o => some (truth (fits op o))
    | none =>
      let difference := (sub f g).facts
      let known : Option Bool :=
        if f.facts.real == some true && g.facts.real == some true then
          match op with
          | .less => if difference.isNonnegative then some false else difference.negative
          | .greaterEq =>
            if difference.isNonnegative then some true else difference.negative.map not
          | .greater => if difference.isNonpositive then some false else difference.positive
          | .lessEq => if difference.isNonpositive then some true else difference.positive.map not
          | _ => none
        else none
      match known with
      | some b => some (truth b)
      | none => some (apply op [f, g])

/-! ### Connectives -/

def negation : Formula → Formula
  | truth b => truth (!b)
  | apply .negation [f] => f
  | apply op fs => if op.isRelation then apply (opposite op) fs else apply .negation [apply op fs]
  | f => apply .negation [f]

def connected (op : Operation) (fs : List Formula) : List Formula :=
  distinct (fs.flatMap fun f => match f with
    | apply o gs => if o == op then gs else [f]
    | f => [f])

def contradicts (fs : List Formula) : Bool :=
  fs.any fun f => match f with
    | apply op [a, b] =>
      op.isRelation && fs.any fun g =>
        same g (apply (opposite op) [a, b]) || same g (apply (exchanged (opposite op)) [b, a])
    | _ => false

/-- Formulas connected by `op`, which `neutral` does not change. -/
def connective (op : Operation) (neutral : Bool) (fs : List Formula) : Formula :=
  let isTruth (b : Bool) (f : Formula) : Bool := match f with
    | truth c => b == c
    | _ => false
  let args := (connected op fs).filter fun f => !isTruth neutral f
  if args.any (isTruth !neutral) || contradicts args then truth !neutral
  else
    match args with
    | [] => truth neutral
    | [f] => f
    | fs => apply op (ordered fs)

def conj (fs : List Formula) : Formula := connective .conj true fs

def disj (fs : List Formula) : Formula := connective .disj false fs

def toggle (f : Formula) (fs : List Formula) : List Formula :=
  if fs.any (same f) then fs.filter fun g => !same f g else fs ++ [f]

def exclusive (fs : List Formula) : Formula :=
  let parts := fs.flatMap fun f => match f with
    | apply .exclusive gs => gs
    | f => [f]
  let odd := (parts.filter fun f => match f with
    | truth true => true
    | _ => false).length % 2 == 1
  let args := (parts.filter fun f => match f with
    | truth _ => false
    | _ => true).foldl (fun acc f => toggle f acc) []
  let inner := match args with
    | [] => truth false
    | [f] => f
    | fs => apply .exclusive (ordered fs)
  if odd then negation inner else inner

def implication (f g : Formula) : Formula :=
  match f, g with
  | truth _, _ => disj [negation f, g]
  | _, truth _ => disj [negation f, g]
  | f, g => if same f g then truth true else apply .implication [f, g]

/-! ### Truth -/

/-- Whether a formula counts as true; `none` if that is not decided. -/
def truth? : Formula → Option Bool
  | number n => some (!n.isZero)
  | truth b => some b
  | apply op fs => if op.isRelation then none else some (op != .tuple || !fs.isEmpty)
  | _ => some true

end DataDiagram.Symbolic.Formula
