import DataDiagram.Hom
import DataDiagram.Text.Template
/-!
# Applying homomorphisms

A homomorphism is applied to a path from the top downwards.  Along the way a context is kept: a
template that shows the edges already produced and has a hole for what remains.  Every step fills
the hole, so a brace in the name of a variable can make an application fail, and so can an integer
with too many digits to be shown.  When the application is traced, each step also leaves one line.
-/

namespace DataDiagram

/-- Why a homomorphism cannot be applied. -/
inductive ApplyError
  | noValue
  | weight (cause : WeightError)
  | context (cause : Text.TemplateError)
  | misfit (two : Misfit)
  | notPath (kind : String)
  | tooManyDigits

namespace ApplyError

def message : ApplyError → String
  | noValue => "tuple index out of range"
  | weight cause => cause.message
  | context cause => cause.message
  | misfit two => two.refusal
  | notPath kind => s!"'{kind}' object has no attribute 'head'"
  | tooManyDigits => Datum.tooLongMessage

def kind : ApplyError → ErrorKind
  | noValue => .index
  | weight cause => cause.kind
  | context cause => cause.kind
  | misfit _ => .type
  | notPath _ => .attribute
  | tooManyDigits => .value

end ApplyError

/-- An outcome together with the lines left on the way to it. -/
structure Traced (α : Type) where
  lines : List (List Char)
  outcome : Except ApplyError α

namespace Traced

def ofExcept {α : Type} (outcome : Except ApplyError α) : Traced α := ⟨[], outcome⟩

def line (text : List Char) : Traced Unit := ⟨[text], .ok ()⟩

/-- Goes on only if what is about to be shown can be. -/
def require (displayable : Bool) : Traced Unit :=
  .ofExcept (if displayable then .ok () else .error .tooManyDigits)

def andThen {α β : Type} (t : Traced α) (f : α → Traced β) : Traced β :=
  match t.outcome with
  | .error e => ⟨t.lines, .error e⟩
  | .ok a => ⟨t.lines ++ (f a).lines, (f a).outcome⟩

instance : Monad Traced where
  pure a := ofExcept (.ok a)
  bind := andThen

end Traced

abbrev Context := List Char

namespace Context

def hole : Context := ['{', '}']

def fill (ctx : Context) (text : List Char) : Traced (List Char) :=
  .ofExcept ((Text.fill ctx text).mapError ApplyError.context)

def afterEdges (ctx : Context) (n : EdgeList) : Traced Context := do
  .require n.isDisplayable
  let text ← ctx.fill (n.text.toList ++ " + \x7b\x7d".toList)
  return Text.replaceAll "] + [".toList ", ".toList text

/-- The context for the argument of `h`. -/
def inside (ctx : Context) (h : Hom) : Traced Context := do
  .require h.isDisplayable
  ctx.fill (h.text.toList ++ "(\x7b\x7d)".toList)

/-- Leaves the line that shows `h` about to be applied to `t`, if lines are asked for. -/
def trace (ctx : Context) (log : Bool) (h : Hom) (t : EdgeList) : Traced Unit :=
  if log then do
    .require (h.isDisplayable && t.isDisplayable)
    let text ← ctx.fill (h.text.toList ++ '(' :: t.text.toList ++ [')'])
    .line text
  else pure ()

end Context

namespace Hom

/-- Applies `push var val` to a path. -/
def applyPush (log : Bool) (var val : Datum) (ctx : Context) (d : EdgeList) : Traced EdgeList :=
  match d.keys, d.values with
  | [], _ => pure .empty
  | _ :: _, [] => .ofExcept (.error .noValue)
  | e :: _, x :: _ => do
    let n : EdgeList := .ofEdges [(e, x), (var, val)]
    let ctx ← ctx.afterEdges n
    ctx.trace log .identity d.tail
    return n ++ d.tail

/-- Applies `gather tgt coef inc` to the path with the given edges. -/
def applyGather (log : Bool) (tgt : Datum) (coef : Coefficients) :
    (inc : Datum) → Context → List Edge → Traced EdgeList
  | inc, _, [] => pure (.single tgt inc)
  | inc, ctx, (e, x) :: rest =>
    match coef.weigh e x inc with
    | .error cause => .ofExcept (.error (.weight cause))
    | .ok inc => do
      ctx.trace log (.compose (.push e x) (.gather tgt coef inc)) (.ofEdges rest)
      let inner ← ctx.inside (.push e x)
      let n ← applyGather log tgt coef inc inner rest
      applyPush log e x ctx n

/-- Applies `assign tgt coef inc` to the path with the given edges. -/
def applyAssign (log : Bool) (tgt : Datum) (coef : Coefficients) :
    (inc : Datum) → Context → List Edge → Traced EdgeList
  | _, _, [] => pure .empty
  | inc, ctx, (e, x) :: rest =>
    match coef.weigh e x inc with
    | .error cause => .ofExcept (.error (.weight cause))
    | .ok inc =>
      if e.same tgt then do
        ctx.trace log (.gather tgt coef inc) (.ofEdges rest)
        applyGather log tgt coef inc ctx rest
      else do
        let ctx ← ctx.afterEdges (.single e x)
        ctx.trace log (.assign tgt coef inc) (.ofEdges rest)
        let n ← applyAssign log tgt coef inc ctx rest
        return EdgeList.single e x ++ n

def edgesOf (d : EdgeList) : Traced (List Edge) :=
  match d.keys, d.values with
  | _ :: _, [] => .ofExcept (.error .noValue)
  | _, _ => pure d.edges

def applyIn (log : Bool) : Hom → Context → EdgeList → Traced EdgeList
  | identity, _, d => pure (if d.nonempty then d else .empty)
  | push var val, ctx, d => applyPush log var val ctx d
  | gather tgt coef inc, ctx, d => do applyGather log tgt coef inc ctx (← edgesOf d)
  | assign tgt coef inc, ctx, d => do applyAssign log tgt coef inc ctx (← edgesOf d)
  | compose one two, ctx, d => do
    let inner ← ctx.inside one
    let n ← applyIn log two inner d
    applyIn log one ctx n
  | stuck one two, ctx, _ => do
    let _ ← ctx.inside one
    .ofExcept (.error (.misfit two))

def apply (log : Bool) (h : Hom) (d : EdgeList) : Traced EdgeList := h.applyIn log .hole d

end Hom

end DataDiagram
