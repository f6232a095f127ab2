import DataDiagram.Assignment.Read
import DataDiagram.Assignment.Spacing
import DataDiagram.Source.Expression
import DataDiagram.Static.Check
import DataDiagram.Static.Define
/-!
# An algebra for right sides

Right sides are evaluated on a machine, where variables are symbols.  In the text of a right side a
word stands for each variable.
-/

namespace DataDiagram

/-! ### Formulas as quantities -/

namespace Symbolic.Formula

open Assignment (Quantity)

mutual

def quantity : Formula → Quantity
  | number n =>
    match n.int? with
    | some k => .integer k
    | none => .other (.ok (number n).text)
  | symbol x => .symbol x
  | product fs => .product (quantities fs) (.ok (product fs).text)
  | sum ts => .sum (quantities ts) (.ok (sum ts).text)
  | f => .other (.ok f.text)

def quantities : List Formula → List Quantity
  | [] => []
  | f :: fs => quantity f :: quantities fs

end

end Symbolic.Formula

namespace Static

open Assignment (Atom Evaluated)

/-! ### Words for variables -/

def longestRun (c : Char) : (current longest : Nat) → List Char → Nat
  | current, longest, [] => max current longest
  | current, longest, d :: rest =>
    if c == d then longestRun c (current + 1) longest rest
    else longestRun c 0 (max current longest) rest

def padded (width n : Nat) : List Char :=
  let ds := (toString n).toList
  List.replicate (width - ds.length) '0' ++ ds

def wordsFor (names texts : List String) : List (String × String) :=
  let longest := (texts.map fun t => longestRun 'v' 0 0 t.toList).foldl max 0
  let run := List.replicate (longest + 1) 'v'
  let width := (toString names.length).length
  (names.zip (List.range names.length)).map fun (n, i) =>
    (n, String.ofList ('_' :: run ++ 'v' :: '_' :: padded width i))

def spelled (words : List (String × String)) (right : List Atom) : List Char :=
  right.flatMap fun a =>
    match a with
    | .char c => [c]
    | .name n => ((words.lookup n).getD n).toList

/-! ### Values as quantities -/

def describe (v : Value) : Eval String := do
  match v with
  | .library name => return s!"module '{name}'"
  | v =>
    let origin := match v with
      | .alias _ origin _ => origin
      | v => v
    match ← Eval.className? origin with
    | some name => return s!"type object '{name}'"
    | none =>
      let kind ← Eval.kindName v
      return s!"'{kind}' object"

/-- How a value is looked at: the class of the symbols passes for a symbol, and that of the integers
for an integer that has no value. -/
def look (v : Value) : Eval Evaluated := do
  match v with
  | .formula f => return .quantity f.quantity
  | .operation "Symbol" => return .quantity (.symbol "<class 'sympy.core.symbol.Symbol'>")
  | .operation "Integer" =>
    return .raised
      ⟨.type, "int() argument must be a string, a bytes-like object or a real number, not 'type'"⟩
  | .operation name =>
    if Algebra.functions.contains name then return .foreign "'function' object" "is_Integer"
    else return .foreign "'property' object" "is_Mul"
  | v => return .foreign (← describe v) "is_Integer"

/-- The words for variables, and a machine on which they are symbols. -/
structure Desk where
  words : List (String × String)
  machine : Machine

namespace Desk

/-- The words do not occur in the texts. -/
def start (texts names : List String) : Desk :=
  let words := wordsFor names.eraseDups texts
  ⟨words, { Machine.empty with scopes := #[words.map fun (n, w) => (w, .formula (.symbol n))] }⟩

def evaluate (d : Desk) (right : List Atom) : Evaluated × Desk :=
  let read? := do
    let e ← Source.readExpression (← Assignment.respaced? (spelled d.words right))
    if (checkExpr e).isOk then some e else none
  match read? with
  | none => (.failed, d)
  | some e =>
    match (do look (← evaluateFormula 0 e) : Run Evaluated).run d.machine with
    | (.ok value, machine) => (value, { d with machine })
    | (.error _, machine) => (.failed, { d with machine })

end Desk

/-- The algebra for right sides of the given texts. -/
def algebra (texts : List String) : Assignment.Algebra Desk where
  start := Desk.start texts
  evaluate right := fun d => d.evaluate right

end Static

end DataDiagram
