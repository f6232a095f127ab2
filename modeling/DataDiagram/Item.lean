import DataDiagram.Hom.Apply
/-!
# Operations on paths, homomorphisms and plain values

An operation can be asked of something that does not have it; it then fails.
-/

namespace DataDiagram

inductive Item
  | path (d : EdgeList)
  /-- A homomorphism, with a number that is its own. -/
  | hom (origin : Nat) (h : Hom)
  | datum (d : Datum)

/-- Why an operation fails. -/
inductive ItemError
  | path (e : PathError)
  | rawAndContent
  | apply (e : ApplyError)
  | weight (e : WeightError)
  | datum (e : DatumError)
  | noMember (kind member : String)
  | notCallable (kind : String)
  | pathApplied
  | unknownArgument (callee name : String)
  | missingArgument (callee : String)
  | notIndexable (kind : String)
  | notIterable (kind : String)
  | badIndex (sequence kind : String)
  | indexRange (sequence : String)

namespace ItemError

def message : ItemError → String
  | path e => e.message
  | rawAndContent => ""
  | apply e => e.message
  | weight e => e.message
  | datum e => e.message
  | noMember kind member => s!"'{kind}' object has no attribute '{member}'"
  | notCallable kind => s!"'{kind}' object is not callable"
  | pathApplied => "ddd.__call__() takes 1 positional argument but 2 were given"
  | unknownArgument callee name => s!"{callee}() got an unexpected keyword argument '{name}'"
  | missingArgument callee => s!"{callee}() missing 1 required positional argument: 'd'"
  | notIndexable kind => s!"'{kind}' object is not subscriptable"
  | notIterable kind => s!"'{kind}' object is not iterable"
  | badIndex "string" kind => s!"string indices must be integers, not '{kind}'"
  | badIndex sequence kind => s!"{sequence} indices must be integers or slices, not {kind}"
  | indexRange sequence => s!"{sequence} index out of range"

def kind : ItemError → ErrorKind
  | indexRange _ => .index
  | path e => e.kind
  | rawAndContent => .assertion
  | apply e => e.kind
  | weight e => e.kind
  | datum e => e.kind
  | noMember .. => .attribute
  | _ => .type

end ItemError

namespace Item

def kindName : Item → String
  | path _ => "ddd"
  | hom _ h => h.kindName
  | datum d => d.kind

def truth : Item → Bool
  | path d => d.nonempty
  | hom .. => true
  | datum d => d.truth

def isDisplayable : Item → Bool
  | path d => d.isDisplayable
  | hom _ h => h.isDisplayable
  | datum d => d.isDisplayable

def display (a : Item) : Except ItemError String :=
  if a.isDisplayable then .ok (match a with
    | path d => d.text
    | hom _ h => h.text
    | datum d => d.display)
  else .error (.apply .tooManyDigits)

def equal : Item → Item → Except ItemError Bool
  | path d, path e => .ok (d.same e)
  | path _, other | other, path _ => .error (.noMember other.kindName "k")
  | hom o h, hom o' h' => .ok (o == o' || h.same h')
  | datum d, datum e => .ok (d.same e)
  | _, _ => .ok false

def append : Item → Item → Except ItemError Item
  | path d, path e => .ok (path (d ++ e))
  | path _, other => .error (.noMember other.kindName "k")
  | datum d, datum e => (d.add e).mapError .datum |>.map datum
  | datum d, other =>
    .error (.datum (match d with
      | .bytes _ => .notConcatenableBytes other.kindName
      | d => if d.isSequence then .notConcatenable d.kind other.kindName
        else .badOperands "+" d.kind other.kindName))
  | a, b => .error (.datum (.badOperands "+" a.kindName b.kindName))

/-- The product of two items: of homomorphisms, the first after the second. -/
def compose (origin : Nat) : Item → Item → Except ItemError Item
  | hom _ h, hom _ k => .ok (hom origin (.compose h k))
  | hom _ h, path d => .ok (hom origin (.stuck h (.path d)))
  | hom _ h, datum d => .ok (hom origin (.stuck h (.datum d)))
  | datum d, datum e => (d.mul e).mapError .datum |>.map datum
  | datum d, other => .error (.datum (refusal d d.kind other.kindName other.kindName))
  | path _, datum d => .error (.datum (refusal d "ddd" d.kind "ddd"))
  | a, b => .error (.datum (.badOperands "*" a.kindName b.kindName))
where
  /-- Why a plain value and something else have no product. -/
  refusal (d : Datum) (left right other : String) : DatumError :=
    if d.isSequence then .notRepeatable other else .badOperands "*" left right

def applyHom (log : Bool) : Hom → Context → Item → Traced Item
  | .identity, _, b => pure (if b.truth then b else path .empty)
  | .compose one two, ctx, b => do
    let inner ← ctx.inside one
    let n ← applyHom log two inner b
    applyHom log one ctx n
  | h, ctx, path d => do return path (← h.applyIn log ctx d)
  | .stuck one two, ctx, _ => do
    let _ ← ctx.inside one
    .ofExcept (.error (.misfit two))
  | h, _, b =>
    if b.truth then .ofExcept (.error (.notPath b.kindName)) else pure (path h.onEmpty)

def element (d key : Datum) : Except ItemError Datum :=
  let at? (name : String) (items : List Datum) : Except ItemError Datum :=
    match key.int? with
    | none => .error (.badIndex name key.kind)
    | some n =>
      let i := if 0 ≤ n then n else n + items.length
      match (if 0 ≤ i then items[i.toNat]? else none) with
      | some e => .ok e
      | none => .error (.indexRange name)
  match d with
  | .str s => at? "string" (s.toList.map fun c => .str (String.singleton c))
  | .list items => at? "list" items
  | .tuple items => at? "tuple" items
  | d => .error (.notIndexable d.kind)

end Item

/-- What an operation leaves: lines, and an item or an error. -/
structure Outcome where
  lines : List (List Char)
  result : Except ItemError Item

namespace Outcome

def ofExcept (result : Except ItemError Item) : Outcome := ⟨[], result⟩

def ofTraced (t : Traced Item) : Outcome := ⟨t.lines, t.outcome.mapError .apply⟩

def text (o : Outcome) : String := String.join (o.lines.map fun l => String.ofList l ++ "\n")

end Outcome

namespace Item

def entries (es : List Edge) : Except ItemError (List Edge) :=
  (EdgeList.entries es).mapError .path

def newPath (raw : List Datum) (content : List Edge) : Except ItemError Item := do
  let content ← entries content
  (EdgeList.checkNames "ddd.__init__" content).mapError .path
  if raw.isEmpty then return .path (.ofEdges content)
  else if content.isEmpty then return .path (.ofAlternating raw)
  else throw .rawAndContent

def calleeOf : Hom → String
  | .compose .. | .stuck .. => "Hom.__mul__.<locals>.MH.__call__"
  | _ => "Hom.__call__"

def checkArguments (callee : String) : List Edge → Except ItemError Unit
  | [] => .ok ()
  | (.str "self", _) :: _ => .error (.path (.reserved callee))
  | (.str "d", _) :: rest | (.str "ctx", _) :: rest => checkArguments callee rest
  | (.str name, _) :: _ => .error (.unknownArgument callee name)
  | _ :: _ => .error (.path .notText)

def applyNamed (log : Bool) (h : Hom) (values : List Edge) : Outcome :=
  let callee := calleeOf h
  let isText (d : Datum) : Bool := match d with
    | .str _ => true
    | _ => false
  let checked : Except ItemError Unit :=
    if values.all fun e => isText e.1 then checkArguments callee values else .error (.path .notText)
  match checked, Datum.lookup values (.str "d"), Datum.lookup values (.str "ctx") with
  | .error e, _, _ => .ofExcept (.error e)
  | _, none, _ => .ofExcept (.error (.missingArgument callee))
  | _, some d, none => .ofTraced (applyHom log h .hole (.datum d))
  | _, some d, some (.str ctx) => .ofTraced (applyHom log h ctx.toList (.datum d))
  | _, some _, some ctx => .ofExcept (.error (.noMember ctx.kind "format"))

def update (log : Bool) (a : Item) (values : List Edge) : Outcome :=
  match entries values with
  | .error e => .ofExcept (.error e)
  | .ok values =>
    match a with
    | .path d => .ofExcept ((d.assign values).mapError .path |>.map .path)
    | .hom _ h => applyNamed log h values
    | .datum d => .ofExcept (.error (.notCallable d.kind))

def apply (log : Bool) (a b : Item) : Outcome :=
  match a with
  | .path _ => .ofExcept (.error .pathApplied)
  | .hom _ h => .ofTraced (applyHom log h .hole b)
  | .datum d => .ofExcept (.error (.notCallable d.kind))

def edgeDatum (e : Edge) : Datum := .list [e.1, e.2]

def get (key : Datum) : Item → Except ItemError Item
  | .path d => .ok (.datum ((d.get? key).getD .none))
  | .datum d => do return .datum (← element d key)
  | a => .error (.notIndexable a.kindName)

def edges : Item → Except ItemError Item
  | .path d => .ok (.datum (.list (d.edges.map edgeDatum)))
  | .datum (.list items) | .datum (.tuple items) => .ok (.datum (.list items))
  | a => .error (.notIterable a.kindName)

def head : Item → Except ItemError Item
  | .path d =>
    match d.head? with
    | some e => .ok (.datum (.tuple [e.1, e.2]))
    | none => .error (.apply .noValue)
  | a => .error (.noMember a.kindName "head")

def tail : Item → Except ItemError Item
  | .path d => .ok (.path d.tail)
  | a => .error (.noMember a.kindName "tail")

def onEmpty : Item → Except ItemError Item
  | .hom _ h => .ok (.path h.onEmpty)
  | a => .error (.noMember a.kindName "one")

def step (e x : Datum) : Item → Except ItemError Item
  | .hom origin h => do
    let (edges, next) ← (h.step e x).mapError .weight
    let text ← (hom origin next).display
    return .datum (.list [.list (edges.flatMap fun e => [e.1, e.2]), .str text])
  | a => .error (.noMember a.kindName "phi")

end Item

end DataDiagram
