import DataDiagram.Datum.Arithmetic
import DataDiagram.EdgeList
/-!
# Homomorphisms

Transformations of paths that work from the topmost edge downwards.
-/

namespace DataDiagram

abbrev Coefficients := List (Datum × Datum)

/-- Why an edge cannot be weighed. -/
inductive WeightError
  | noCoefficient (key : Datum)
  | unhashable (kind : String)
  /-- The value cannot be multiplied by the coefficient, or the product cannot be added. -/
  | arithmetic (e : DatumError)

namespace WeightError

def message : WeightError → String
  | noCoefficient key => key.text
  | unhashable kind => s!"unhashable type: '{kind}'"
  | arithmetic e => e.message

def kind : WeightError → ErrorKind
  | noCoefficient _ => .key
  | unhashable _ => .type
  | arithmetic e => e.kind

end WeightError

namespace Coefficients

/-- Coefficients as text, such as `{'a': 1}`. -/
def text (coef : Coefficients) : String := (Datum.dict coef).display

def same (a b : Coefficients) : Bool := (Datum.dict a).same (.dict b)

/-- The value of an edge times the coefficient of its variable, added to `inc`. -/
def weigh (coef : Coefficients) (e x inc : Datum) : Except WeightError Datum :=
  match e.unhashable? with
  | some kind => .error (.unhashable kind)
  | none =>
    match Datum.lookup coef e with
    | none => .error (.noCoefficient e)
    | some k => (do (← x.mul k).add inc : Except DatumError Datum).mapError .arithmetic

end Coefficients

/-- What a homomorphism is composed with by mistake. -/
inductive Misfit
  | path (d : EdgeList)
  | datum (d : Datum)

/-- A transformation of paths. -/
inductive Hom
  | identity
  | push (var val : Datum)
  /-- Adds up `inc` and the edges below, each value times the coefficient of its variable, and puts
  the sum on top as the value of `tgt`. -/
  | gather (tgt : Datum) (coef : Coefficients) (inc : Datum)
  /-- Gives the first edge of `tgt` the sum of `inc` and all edges, each value times the coefficient
  of its variable. -/
  | assign (tgt : Datum) (coef : Coefficients) (inc : Datum)
  | compose (one two : Hom)
  | stuck (one : Hom) (two : Misfit)

namespace Misfit

def text : Misfit → String
  | path d => d.text
  | datum d => d.display

def isDisplayable : Misfit → Bool
  | path d => d.isDisplayable
  | datum d => d.isDisplayable

def refusal : Misfit → String
  | path _ => "ddd.__call__() takes 1 positional argument but 3 were given"
  | datum d => s!"'{d.kind}' object is not callable"

end Misfit

namespace Hom

def kindName : Hom → String
  | identity => "Hom"
  | push .. => "Up"
  | gather .. => "Down"
  | assign .. => "Assign"
  | compose .. | stuck .. => "MH"

def text : Hom → String
  | identity => "</>"
  | push var val => "<|" ++ var.text ++ "=" ++ val.text ++ ">"
  | gather tgt coef inc => "<" ++ tgt.text ++ "=" ++ coef.text ++ "+" ++ inc.text ++ "|>"
  | assign tgt coef inc => "<" ++ tgt.text ++ "=" ++ coef.text ++ "+" ++ inc.text ++ ">"
  | compose one two => "(" ++ one.text ++ " * " ++ two.text ++ ")"
  | stuck one two => "(" ++ one.text ++ " * " ++ two.text ++ ")"

/-- Whether a homomorphism can be shown: none of its integers has too many digits. -/
def isDisplayable : Hom → Bool
  | identity => true
  | push var val => var.isDisplayable && val.isDisplayable
  | gather tgt coef inc | assign tgt coef inc =>
    tgt.isDisplayable && (Datum.dict coef).isDisplayable && inc.isDisplayable
  | compose one two => one.isDisplayable && two.isDisplayable
  | stuck one two => one.isDisplayable && two.isDisplayable

/-- The text that shows a homomorphism, if there is one. -/
def shown? (h : Hom) : Option String := if h.isDisplayable then some h.text else none

def onEmpty : Hom → EdgeList
  | gather tgt _ inc => .single tgt inc
  | _ => .empty

/-- Whether two homomorphisms are known to be equal from what they hold.  Identities and
compositions hold nothing to compare. -/
def same : Hom → Hom → Bool
  | push var val, push var' val' => var.same var' && val.same val'
  | gather tgt coef inc, gather tgt' coef' inc' => tgt.same tgt' && coef.same coef' && inc.same inc'
  | assign tgt coef inc, assign tgt' coef' inc' => tgt.same tgt' && coef.same coef' && inc.same inc'
  | _, _ => false

/-- What a homomorphism makes of the topmost edge `e = x`: the edges to put in its place and the
homomorphism for the path below. -/
def step (h : Hom) (e x : Datum) : Except WeightError (List Edge × Hom) :=
  match h with
  | push var val => .ok ([(e, x), (var, val)], identity)
  | gather tgt coef inc => do
    return ([], compose (push e x) (gather tgt coef (← coef.weigh e x inc)))
  | assign tgt coef inc => do
    let inc ← coef.weigh e x inc
    return if e.same tgt then ([], gather tgt coef inc) else ([(e, x)], assign tgt coef inc)
  | h => .ok ([(e, x)], h)

end Hom

end DataDiagram
