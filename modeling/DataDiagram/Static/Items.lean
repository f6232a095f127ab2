import DataDiagram.Static.Value
/-!
# Going through values

The items of values that can be gone through.  Ranges are gone through number by number, so that a
long one can be left early.
-/

namespace DataDiagram.Static

/-- What a value is gone through by. -/
inductive Items
  | values (items : List Value) (failure : Option StaticError)
  | numbers (start step : Int) (count : Nat)

namespace Items

variable {σ : Type} {m : Type → Type} [Monad m] [MonadLiftT Eval m]

/-- Goes through values as long as `step` says so. -/
def visitValues (step : σ → Value → m (σ × Bool)) (failure : Option StaticError) :
    List Value → σ → m σ
  | [], s =>
    match failure with
    | some e => liftM (throw e : Eval σ)
    | none => return s
  | v :: rest, s => do
    let (s, more) ← step s v
    if more then visitValues step failure rest s else return s

/-- Goes through numbers as long as `step` says so. -/
def visitNumbers (step : σ → Value → m (σ × Bool)) (distance : Int) :
    (count : Nat) → (n : Int) → σ → m σ
  | 0, _, s => return s
  | count + 1, n, s => do
    let (s, more) ← step s (← Eval.ofInt n)
    if more then visitNumbers step distance count (n + distance) s else return s

/-- Goes through items as long as `step` says so. -/
def visit (step : σ → Value → m (σ × Bool)) (s : σ) : Items → m σ
  | values items failure => visitValues step failure items s
  | numbers start distance count => visitNumbers step distance count start s

def toList : Items → Eval (List Value)
  | values items none => return items
  | values _ (some e) => throw e
  | numbers start distance count => do
    if Datum.maxCount < count then throw .lengthTooLarge
    else if Datum.maxItems < count then throw (.datum .outOfMemory)
    else
      let collected ← visitNumbers (fun (s : List Value) v => return (v :: s, true)) distance count
        start []
      return collected.reverse

end Items

namespace Eval

def items? : Value → Eval (Option Items)
  | .tuple _ items => return some (.values items none)
  | .list addr => do return some (.values (← listItems addr) none)
  | .set addr => do return some (.values (← setItems addr) none)
  | .dict addr => do return some (.values ((← dictEntries addr).map Prod.fst) none)
  | .str _ s => do
    return some (.values (← s.toList.mapM fun c => ofString (String.ofList [c])) none)
  | .bytes _ s => return some (.values (s.toList.map fun c => .int 0 c.toNat) none)
  | .range _ a b c => return some (.numbers a c (Datum.rangeLength a b c))
  | .iterator _ addr => do
    match ← load addr with
    | .iterator items failure =>
      store addr (.iterator [] none)
      return some (.values items failure)
    | _ => return none
  | .formula (.apply .tuple fs) => return some (.values (fs.map .formula) none)
  | _ => return none

def items (v : Value) : Eval Items := do
  match ← items? v with
  | some xs => return xs
  | none => throw (.notIterable (← kindName v))

def itemList (v : Value) : Eval (List Value) := do (← items v).toList

end Eval

end DataDiagram.Static
