import DataDiagram.Datum
/-!
# Edge lists

A path of a data decision diagram: a list of variables and a list of values, read side by side.  A
variable may occur several times.  The two lists usually have one length; whatever reads edges stops
at the end of the shorter one.
-/

namespace DataDiagram

abbrev Edge := Datum × Datum

/-- Variables and their values along a path. -/
structure EdgeList where
  keys : List Datum
  values : List Datum

/-- Why there is no such path. -/
inductive PathError
  | notText
  | reserved (function : String)
  | unhashable (kind : String)

namespace PathError

def message : PathError → String
  | notText => "keywords must be strings"
  | reserved function => s!"{function}() got multiple values for argument 'self'"
  | unhashable kind => s!"unhashable type: '{kind}'"

def kind : PathError → ErrorKind
  | notText | reserved _ | unhashable _ => .type

end PathError

namespace EdgeList

def empty : EdgeList := ⟨[], []⟩

instance : Inhabited EdgeList := ⟨empty⟩

def edges (d : EdgeList) : List Edge := d.keys.zip d.values

def ofEdges (es : List Edge) : EdgeList := ⟨es.map (·.1), es.map (·.2)⟩

def single (key value : Datum) : EdgeList := ⟨[key], [value]⟩

def alternate : List Datum → List Datum × List Datum
  | k :: v :: rest => (k :: (alternate rest).1, v :: (alternate rest).2)
  | [k] => ([k], [])
  | [] => ([], [])

def ofAlternating (raw : List Datum) : EdgeList := ⟨(alternate raw).1, (alternate raw).2⟩

def Balanced (d : EdgeList) : Prop := d.keys.length = d.values.length

/-- The entries in which every key stands once, where it first stood, with its last value. -/
def distinct (es : List Edge) : List Edge :=
  es.foldl (fun acc e => Datum.putEntry acc e.1 e.2) []

def entries (es : List Edge) : Except PathError (List Edge) := do
  for e in es do
    match e.1.unhashable? with
    | some kind => throw (.unhashable kind)
    | none => pure ()
  return distinct es

def checkNames (function : String) (es : List Edge) : Except PathError Unit :=
  let isText (d : Datum) : Bool := match d with
    | .str _ => true
    | _ => false
  if !es.all fun e => isText e.1 then .error .notText
  else if es.any fun e => e.1.same (.str "self") then .error (.reserved function)
  else .ok ()

def ofContent (es : List Edge) : Except PathError EdgeList := do
  checkNames "ddd.__init__" es
  return ofEdges es

/-- The path with the edges of `d` in which every variable of `es` has the value given there;
repeated variables are merged. -/
def assign (d : EdgeList) (es : List Edge) : Except PathError EdgeList := do
  checkNames "ddd.__call__" es
  ofContent (← entries (d.edges.map fun e => (e.1, (Datum.lookup es e.1).getD e.2)))

def get? (d : EdgeList) (key : Datum) : Option Datum := Datum.lookup d.edges key

def nonempty (d : EdgeList) : Bool := !d.keys.isEmpty

def head? (d : EdgeList) : Option Edge :=
  match d.keys, d.values with
  | k :: _, v :: _ => some (k, v)
  | _, _ => none

def tail (d : EdgeList) : EdgeList := ofEdges d.edges.tail

def append (d e : EdgeList) : EdgeList := ⟨d.keys ++ e.keys, d.values ++ e.values⟩

instance : Append EdgeList := ⟨append⟩

def same (d e : EdgeList) : Bool := Datum.sameAll d.keys e.keys && Datum.sameAll d.values e.values

/-- A path as text, such as `[a=1, b=2]`. -/
def text (d : EdgeList) : String :=
  "[" ++ ", ".intercalate (d.edges.map fun e => e.1.text ++ "=" ++ e.2.text) ++ "]"

/-- Whether a path can be shown: none of its integers has too many digits. -/
def isDisplayable (d : EdgeList) : Bool :=
  d.edges.all fun e => e.1.isDisplayable && e.2.isDisplayable

@[simp] theorem edges_ofEdges (es : List Edge) : (ofEdges es).edges = es := by
  induction es with
  | nil => rfl
  | cons e es ih => simpa [edges, ofEdges] using ih

theorem balanced_ofEdges (es : List Edge) : (ofEdges es).Balanced := by
  simp [Balanced, ofEdges]

theorem ofEdges_edges {d : EdgeList} (h : d.Balanced) : ofEdges d.edges = d := by
  cases d with
  | mk keys values =>
    have hle : keys.length ≤ values.length := Nat.le_of_eq h
    have hge : values.length ≤ keys.length := Nat.le_of_eq h.symm
    simp [ofEdges, edges, List.map_fst_zip hle, List.map_snd_zip hge]

end EdgeList

end DataDiagram
