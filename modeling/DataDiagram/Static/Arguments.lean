import DataDiagram.Static.Compare
import DataDiagram.Static.Machine
/-!
# Arguments

How the arguments of a call are given to the parameters of what is called.
-/

namespace DataDiagram.Static

/-- The arguments of a call. -/
structure Arguments where
  positional : List Value
  named : List (String × Value)

abbrev Apply := Value → Arguments → Run Value

/-- The parameters of something that can be called. -/
structure Signature where
  callee : String
  params : Source.ParamNames
  defaults : List (String × Value)
  implicit : Nat

namespace Signature

def names (sig : Signature) : List String := sig.params.positionalOnly ++ sig.params.positional

def byName (sig : Signature) : List String := sig.params.positional ++ sig.params.keywordOnly

/-- The arguments that are given so far, and those by name that no parameter stands for. -/
structure Bound where
  values : List (String × Value)
  further : List (String × Value)

def bindNamed (sig : Signature) (all : List String) :
    (named : List (String × Value)) → Bound → Eval Bound
  | [], bound => return bound
  | (name, v) :: rest, bound => do
    if sig.byName.contains name then
      if (bound.values.lookup name).isSome then throw (.repeatedArgument sig.callee name)
      else bindNamed sig all rest { bound with values := bound.values ++ [(name, v)] }
    else if sig.params.restKeywords.isSome then
      bindNamed sig all rest { bound with further := bound.further ++ [(name, v)] }
    else
      match sig.params.positionalOnly.filter all.contains with
      | [] => throw (.unexpectedKeyword sig.callee name)
      | names => throw (.positionalOnly sig.callee names)

def requireFit (sig : Signature) (given : Nat) (bound : Bound) : Eval Unit := do
  let names := sig.names
  if names.length < given && sig.params.rest.isNone then
    let optional := (names.filter fun n => (sig.defaults.lookup n).isSome).length
    let keywords := (sig.params.keywordOnly.filter fun n => (bound.values.lookup n).isSome).length
    throw (.tooManyArguments sig.callee (names.length - optional + sig.implicit)
      (names.length + sig.implicit) (given + sig.implicit) keywords)

def bind (sig : Signature) (args : Arguments) : Eval (List (String × Value)) := do
  let names := sig.names
  let bound ← sig.bindNamed (args.named.map Prod.fst) args.named ⟨names.zip args.positional, []⟩
  sig.requireFit args.positional.length bound
  let values := bound.values ++ sig.defaults.filter fun d => (bound.values.lookup d.1).isNone
  let missing (ns : List String) : List String := ns.filter fun n => (values.lookup n).isNone
  match missing names, missing sig.params.keywordOnly with
  | [], [] =>
    let rest ← match sig.params.rest with
      | some n => do pure [(n, ← Eval.newTuple (args.positional.drop names.length))]
      | none => pure []
    let further ← match sig.params.restKeywords with
      | some n => do
        let entries ← bound.further.mapM fun (k, v) => do return (Value.str 0 k, v)
        pure [(n, ← newDict entries)]
      | none => pure []
    return values ++ rest ++ further
  | [], ns => throw (.missingKeywordArguments sig.callee ns)
  | ns, _ => throw (.missingArguments sig.callee ns)

end Signature

end DataDiagram.Static
