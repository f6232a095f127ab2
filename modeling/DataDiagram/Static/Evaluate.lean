import DataDiagram.Static.Attribute
import DataDiagram.Static.Constant
import DataDiagram.Text.Template
/-!
# Static evaluation

The value of an expression ahead of the program.  What is called in it is given to the evaluation,
so that it follows the shape of the expression.
-/

namespace DataDiagram.Static

open Source (Expr Stmt)

def spread (v : Value) : Eval (List Value) := do
  match ← Eval.items? v with
  | some items => items.toList
  | none => throw (.starNotIterable (← Eval.kindName v))

def spreadNamed (callee v : Value) (named : List (String × Value)) :
    Eval (List (String × Value)) := do
  match v with
  | .dict addr =>
    let put (acc : List (String × Value)) (e : Value × Value) : Eval (List (String × Value)) := do
      match e.1 with
      | .str _ name =>
        if (acc.lookup name).isSome then
          let text ← calleeText callee
          throw (.refused .type s!"{text} got multiple values for keyword argument '{name}'")
        else return acc ++ [(name, e.2)]
      | _ => throw (.refused .type "keywords must be strings")
    (← Eval.dictEntries addr).foldlM put named
  | v => throw (.notMapping (← calleeText callee) (← Eval.kindName v))

def spreadEntries (v : Value) : Eval (List (Value × Value)) := do
  match v with
  | .dict addr => Eval.dictEntries addr
  | v => throw (.refused .type ("'" ++ (← Eval.kindName v) ++ "' object is not a mapping"))

def entriesOf : List (Option (Run Value)) → List (Run Value) → Run (List (Value × Value))
  | some k :: keys, e :: rest => do
    let key ← k
    let v ← e
    return (key, v) :: (← entriesOf keys rest)
  | none :: keys, e :: rest => do
    let entries ← spreadEntries (← e)
    return entries ++ (← entriesOf keys rest)
  | _, _ => return []

def formattedText (v : Value) (conversion : Option Source.Conversion) (layout : String) :
    Eval String := do
  match conversion with
  | none => Builtin.laidOut (← Eval.shown v) layout
  | some .print => do Builtin.laidOut (.str (← Eval.print v)) layout
  | some .display => do Builtin.laidOut (.str (← Eval.display v)) layout
  | some .ascii => do
    Builtin.laidOut (.str (String.ofList (Interpolation.asciiText (← Eval.display v)))) layout

/-- Puts what a comprehension makes into the store, last one first. -/
def emit (addr : Nat) (made : List Value) : Eval Unit := do
  Eval.store addr (.list ((← Eval.newTuple made) :: (← Eval.listItems addr)))

def emitted (addr : Nat) : Eval (List (List Value)) := do
  return (← Eval.listItems addr).reverse.map fun
    | .tuple _ parts => parts
    | v => [v]

def requireCount (expected given : Nat) : Eval Unit :=
  if given < expected then throw (.tooFewValues expected given)
  else if expected < given then throw (.tooManyValues expected)
  else return ()

/-- Values divided among targets, of which the one at `star` takes all that the others leave. -/
def shareOut (targets star : Nat) (values : List Value) : Eval (List Value) := do
  let others := targets - 1
  if values.length < others then
    let given := values.length
    throw
      (.refused .value s!"not enough values to unpack (expected at least {others}, got {given})")
  else
    let middle := values.length - others
    let taken ← Eval.newList ((values.drop star).take middle)
    return values.take star ++ taken :: values.drop (star + middle)

def starAt : List Expr → Option Nat
  | [] => none
  | .starred .. :: _ => some 0
  | _ :: rest => (starAt rest).map (· + 1)

def shares (targets : List Expr) (v : Value) : Eval (List Value) := do
  match ← Eval.items? v with
  | none =>
    throw (.refused .type ("cannot unpack non-iterable " ++ (← Eval.kindName v) ++ " object"))
  | some items =>
    let values ← items.toList
    match starAt targets with
    | some star => shareOut targets.length star values
    | none => do
      requireCount targets.length values.length
      return values

mutual

def eval (apply : Apply) (sc : Scope) (e : Expr) : Run Value :=
  match folded? e with
  | some d => Eval.constant sc.unit d
  | none =>
    match e with
    | .constant _ d => Eval.constant sc.unit d
    | .name _ id _ => sc.lookup id
    | .unary _ op e => do Operator.unary op (← eval apply sc e)
    | .binary _ op a b => do
      let v ← eval apply sc a
      let w ← eval apply sc b
      Operator.binary op v w
    | .bool _ op values => evalBool apply sc op values
    | .compare _ a ops rights => do
      let v ← eval apply sc a
      evalCompare apply sc v ops rights
    | .call _ f [.starred _ e _] keywords => do
      let g ← eval apply sc f
      let v ← eval apply sc e
      let named ← evalNamed apply sc g [] keywords
      match ← Eval.items? v with
      | some items => do apply g ⟨← items.toList, named⟩
      | none => throw (.notUnpackable (← calleeText g) (← Eval.kindName v))
    | .call _ f args keywords => do
      let g ← eval apply sc f
      let positional ← evalItems apply sc args
      let named ← evalNamed apply sc g [] keywords
      apply g ⟨positional, named⟩
    | .field _ e attr _ => do attributeOf (← eval apply sc e) attr
    | .subscript _ e i _ => do
      let v ← eval apply sc e
      let w ← eval apply sc i
      element v w
    | .slice _ a b c => do
      let lower ← evalOption apply sc a
      let upper ← evalOption apply sc b
      let step ← evalOption apply sc c
      return .slice (← Eval.fresh) lower upper step
    | .tuple _ items _ => do Eval.newTuple (← evalItems apply sc items)
    | .list _ items _ => do Eval.newList (← evalItems apply sc items)
    | .set _ items => do newSet (← evalItems apply sc items)
    | .dict _ keys values => do
      newDict (← entriesOf (laterOptions apply sc keys) (laterAll apply sc values))
    | .starred .. => throw (.refused .type "can't use starred expression here")
    | .conditional _ test a b => do
      if ← Eval.truth (← eval apply sc test) then eval apply sc a else eval apply sc b
    | .lambda _ params keywordDefaults defaults body => do
      let keyword ← evalOptions apply sc keywordDefaults
      let values ← evalItems apply sc defaults
      let positional := params.positionalOnly ++ params.positional
      let optional := positional.drop (positional.length - values.length)
      let given := (params.keywordOnly.zip keyword).filterMap fun (n, v) => v.map fun w => (n, w)
      let own := paramNames params ++ boundNames body
      Run.newFunction "<lambda>"
        { params, defaults := optional.zip values ++ given, body := .result body, localNames := own
          unit := sc.unit, globals := sc.globals, frames := sc.frames, symbolic := sc.symbolic }
    | .comprehension _ kind parts clauses => do
      let inner ← sc.inside (clauseTargets clauses) [] true
      let addr ← Eval.alloc (.list [])
      let make : Run Unit := do emit addr (← evalItems apply inner parts)
      let failure ← tryCatch (do
          evalClauses apply sc inner make clauses
          return none) fun e => if kind == .generator then return some e else throw e
      let made ← emitted addr
      match kind with
      | .list => Eval.newList made.flatten
      | .set => newSet made.flatten
      | .dict => newDict (made.filterMap fun
          | [k, v] => some (k, v)
          | _ => none)
      | .generator =>
        return .iterator "generator" (← Eval.alloc (.iterator made.flatten failure))
    | .joined _ pieces => do Eval.ofString (← evalPieces apply sc pieces)
    | .formatted _ e conversion layout => do
      let v ← eval apply sc e
      let spec ← evalLayout apply sc layout
      Eval.ofString (← formattedText v conversion spec)
    | .named _ target e => do
      let v ← eval apply sc e
      match target with
      | .name _ id _ => sc.assignNamed id v
      | _ => pure ()
      return v
    | .await .. | .yield .. | .yieldFrom .. =>
      throw (.refused .type "this expression cannot be evaluated")

/-- The value of a connective: the first operand that decides it, or the last one. -/
def evalBool (apply : Apply) (sc : Scope) (op : Source.BoolOp) : List Expr → Run Value
  | [] => return .none
  | [e] => eval apply sc e
  | e :: rest => do
    let v ← eval apply sc e
    if (← Eval.truth v) == (op == .conj) then evalBool apply sc op rest else return v

def evalCompare (apply : Apply) (sc : Scope) (left : Value) :
    List Source.CompareOp → List Expr → Run Value
  | op :: ops, e :: rest => do
    let right ← eval apply sc e
    let outcome ← compareValues op left right
    if rest.isEmpty then return outcome
    else if ← Eval.truth outcome then evalCompare apply sc right ops rest
    else return outcome
  | _, _ => return .bool true

def evalItems (apply : Apply) (sc : Scope) : List Expr → Run (List Value)
  | [] => return []
  | .starred _ e _ :: rest => do
    let items ← spread (← eval apply sc e)
    return items ++ (← evalItems apply sc rest)
  | e :: rest => do
    let v ← eval apply sc e
    return v :: (← evalItems apply sc rest)

def evalNamed (apply : Apply) (sc : Scope) (callee : Value) (named : List (String × Value)) :
    List (Option String × Expr) → Run (List (String × Value))
  | [] => return named
  | (some name, e) :: rest => do
    let v ← eval apply sc e
    evalNamed apply sc callee (named ++ [(name, v)]) rest
  | (none, e) :: rest => do
    let v ← eval apply sc e
    evalNamed apply sc callee (← spreadNamed callee v named) rest

def laterAll (apply : Apply) (sc : Scope) : List Expr → List (Run Value)
  | [] => []
  | e :: rest => eval apply sc e :: laterAll apply sc rest

def laterOptions (apply : Apply) (sc : Scope) : List (Option Expr) → List (Option (Run Value))
  | [] => []
  | none :: rest => none :: laterOptions apply sc rest
  | some e :: rest => some (eval apply sc e) :: laterOptions apply sc rest

def evalOption (apply : Apply) (sc : Scope) : Option Expr → Run Value
  | none => return .none
  | some e => eval apply sc e

def evalOptions (apply : Apply) (sc : Scope) : List (Option Expr) → Run (List (Option Value))
  | [] => return []
  | none :: rest => do return none :: (← evalOptions apply sc rest)
  | some e :: rest => do
    let v ← eval apply sc e
    return some v :: (← evalOptions apply sc rest)

def evalConditions (apply : Apply) (sc : Scope) : List Expr → Run Bool
  | [] => return true
  | e :: rest => do
    if ← Eval.truth (← eval apply sc e) then evalConditions apply sc rest else return false

/-- Does `make` for all that the clauses of a comprehension go through; what the first one goes
through is evaluated outside. -/
def evalClauses (apply : Apply) (sc inner : Scope) (make : Run Unit) :
    List (Bool × Expr × Expr × List Expr) → Run Unit
  | [] => make
  | (_, target, iter, conditions) :: rest => do
    let items ← Eval.items (← eval apply sc iter)
    items.visit (fun _ v => do
      assignTo apply inner target v
      if ← evalConditions apply inner conditions then evalClauses apply inner inner make rest
      return ((), true)) ()

def evalPieces (apply : Apply) (sc : Scope) : List Expr → Run String
  | [] => return ""
  | e :: rest => do
    let v ← eval apply sc e
    let text ← match v with
      | .str _ s => pure s
      | v => Eval.print v
    return text ++ (← evalPieces apply sc rest)

def evalLayout (apply : Apply) (sc : Scope) : Option Expr → Run String
  | none => return ""
  | some e => do
    match ← eval apply sc e with
    | .str _ s => return s
    | v => Eval.print v

def assignTo (apply : Apply) (sc : Scope) : Expr → Value → Run Unit
  | .name _ id _, v => sc.assign id v
  | .field _ e attr _, v => do setAttribute (← eval apply sc e) attr v
  | .subscript _ e i _, v => do
    let w ← eval apply sc e
    setElement w (← eval apply sc i) v
  | .tuple _ targets _, v | .list _ targets _, v => do
    assignAll apply sc targets (← shares targets v)
  | .starred _ e _, v => assignTo apply sc e v
  | _, _ => throw (.refused .type "this target cannot be written")

def assignAll (apply : Apply) (sc : Scope) : List Expr → List Value → Run Unit
  | t :: targets, v :: values => do
    assignTo apply sc t v
    assignAll apply sc targets values
  | _, _ => return ()

end

def augmentTo (apply : Apply) (sc : Scope) (target : Expr) (op : Source.BinaryOp) (e : Expr) :
    Run Unit := do
  match target with
  | .name _ id _ =>
    let old ← sc.lookup id
    sc.assign id (← Operator.augment op old (← eval apply sc e))
  | .field _ a attr _ =>
    let v ← eval apply sc a
    let old ← attributeOf v attr
    setAttribute v attr (← Operator.augment op old (← eval apply sc e))
  | .subscript _ a i _ =>
    let v ← eval apply sc a
    let w ← eval apply sc i
    let old ← element v w
    setElement v w (← Operator.augment op old (← eval apply sc e))
  | _ => throw (.refused .type "this target cannot be written")

mutual

def run (apply : Apply) (sc : Scope) : Stmt → Run (Option Value)
  | .declare _ target _ (some e) _ => do
    assignTo apply sc target (← eval apply sc e)
    return none
  | .declare _ _ _ none _ => return none
  | .assign _ targets e => do
    let v ← eval apply sc e
    targets.forM fun t => assignTo apply sc t v
    return none
  | .augment _ target op e => do
    augmentTo apply sc target op e
    return none
  | .ret _ (some e) => do return some (← eval apply sc e)
  | .ret _ none => return some .none
  | .cond _ test body orelse => do
    if ← Eval.truth (← eval apply sc test) then runAll apply sc body else runAll apply sc orelse
  | .loop _ target iter body orelse => do
    let items ← Eval.items (← eval apply sc iter)
    let outcome ← items.visit (fun (_ : Option Value) v => do
      assignTo apply sc target v
      let outcome ← runAll apply sc body
      return (outcome, outcome.isNone)) none
    match outcome with
    | some w => return some w
    | none => runAll apply sc orelse
  | .expr _ e => do
    let _ ← eval apply sc e
    return none
  | .global .. | .pass _ => return none
  | _ => throw (.refused .type "this statement cannot be run")

def runAll (apply : Apply) (sc : Scope) : List Stmt → Run (Option Value)
  | [] => return none
  | s :: rest => do
    match ← run apply sc s with
    | some w => return some w
    | none => runAll apply sc rest

end

end DataDiagram.Static
