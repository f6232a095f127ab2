import DataDiagram.Proofs.Hom.Compose
import Mathlib
/-!
# Tracing

The context of an application and the lines that it leaves can make it fail, but they do not show in
what it gives.  Two applications of a homomorphism to a path, each in a context of its own and
traced or not, are compared step by step: wherever both go on, they go on with the same edges.  If
the second one has the context of the first and leaves no lines, it goes on wherever the first one
does.
-/

namespace DataDiagram

namespace Traced

variable {α β : Type} {sure : Prop} {R : α → α → Prop} {S : β → β → Prop} {t u : Traced α}

/-- Where the first computation gives a value, the second one gives a related value or, unless it is
`sure` of one, fails. -/
def KeepsUp (sure : Prop) (R : α → α → Prop) (t u : Traced α) : Prop :=
  ∀ a, t.outcome = .ok a → match u.outcome with
    | .ok b => R a b
    | .error _ => ¬sure

theorem keepsUp_refl (t : Traced α) : KeepsUp sure Eq t t := by
  intro a ha
  rw [ha]

variable {f g : α → Traced β}

theorem KeepsUp.bind (h : KeepsUp sure R t u)
    (hfg : ∀ a b, R a b → KeepsUp sure S (f a) (g b)) : KeepsUp sure S (t >>= f) (u >>= g) := by
  intro c hc
  obtain ⟨a, ha, hc⟩ := exists_of_outcome_bind hc
  have hu := h a ha
  rw [outcome_bind]
  cases hb : u.outcome with
  | error e =>
    rw [hb] at hu
    exact hu
  | ok b =>
    rw [hb] at hu
    exact hfg a b hu c hc

theorem KeepsUp.bind_eq (h : KeepsUp sure Eq t u)
    (hfg : ∀ a, KeepsUp sure S (f a) (g a)) : KeepsUp sure S (t >>= f) (u >>= g) :=
  h.bind fun a _ heq => heq ▸ hfg a

/-- Both computations take the same steps in their contexts. -/
theorem keepsUp_of_eq (h : sure → t = u) : KeepsUp sure (fun a b => sure → a = b) t u := by
  intro a ha
  cases hb : u.outcome with
  | error e =>
    intro hsure
    rw [h hsure, hb] at ha
    cases ha
  | ok b =>
    intro hsure
    rw [h hsure, hb] at ha
    exact (Except.ok.inj ha).symm

end Traced

open Traced (KeepsUp keepsUp_refl keepsUp_of_eq)

theorem Context.keepsUp_trace {sure : Prop} {log log' : Bool} (hlog : sure → log' = false)
    (ctx ctx' : Context) (h : Hom) (t : EdgeList) :
    KeepsUp sure (fun _ _ => True) (ctx.trace log h t) (ctx'.trace log' h t) := by
  intro _ _
  cases hlog' : log' with
  | false => trivial
  | true =>
    have hunsure : ¬sure := fun hsure => absurd (hlog hsure) (by simp [hlog'])
    split
    · trivial
    · exact hunsure

namespace Hom

variable {sure : Prop} {log log' : Bool} {tgt : Datum} {coef : Coefficients} {ctx ctx' : Context}

theorem keepsUp_applyPush (hlog : sure → log' = false) (hctx : sure → ctx = ctx') (var val : Datum)
    (d : EdgeList) :
    KeepsUp sure Eq (applyPush log var val ctx d) (applyPush log' var val ctx' d) := by
  unfold applyPush
  split
  · exact keepsUp_refl _
  · exact keepsUp_refl _
  · refine (keepsUp_of_eq fun hsure => by rw [hctx hsure]).bind fun next next' _ => ?_
    exact (next.keepsUp_trace hlog next' _ _).bind fun _ _ _ => keepsUp_refl _

theorem keepsUp_applyGather (hlog : sure → log' = false) (hctx : sure → ctx = ctx') (inc : Datum)
    (es : List Edge) :
    KeepsUp sure Eq (applyGather log tgt coef inc ctx es)
    (applyGather log' tgt coef inc ctx' es) := by
  induction es generalizing inc ctx ctx' with
  | nil => exact keepsUp_refl _
  | cons e rest ih =>
    rw [applyGather, applyGather]
    cases coef.weigh e.1 e.2 inc with
    | error cause => exact keepsUp_refl _
    | ok inc' =>
      refine (ctx.keepsUp_trace hlog ctx' _ _).bind fun _ _ _ => ?_
      refine (keepsUp_of_eq fun hsure => by rw [hctx hsure]).bind fun inner inner' hinner => ?_
      exact (ih hinner inc').bind_eq fun n => keepsUp_applyPush hlog hctx e.1 e.2 n

theorem keepsUp_applyAssign (hlog : sure → log' = false) (hctx : sure → ctx = ctx') (inc : Datum)
    (es : List Edge) :
    KeepsUp sure Eq (applyAssign log tgt coef inc ctx es)
    (applyAssign log' tgt coef inc ctx' es) := by
  induction es generalizing inc ctx ctx' with
  | nil => exact keepsUp_refl _
  | cons e rest ih =>
    rw [applyAssign, applyAssign]
    cases coef.weigh e.1 e.2 inc with
    | error cause => exact keepsUp_refl _
    | ok inc' =>
      dsimp only
      split
      · refine (ctx.keepsUp_trace hlog ctx' _ _).bind fun _ _ _ => ?_
        exact keepsUp_applyGather hlog hctx inc' rest
      · refine (keepsUp_of_eq fun hsure => by rw [hctx hsure]).bind fun next next' hnext => ?_
        refine (next.keepsUp_trace hlog next' _ _).bind fun _ _ _ => ?_
        exact (ih hnext inc').bind_eq fun _ => keepsUp_refl _

theorem keepsUp_applyIn (h : Hom) (hlog : sure → log' = false) (hctx : sure → ctx = ctx')
    (d : EdgeList) : KeepsUp sure Eq (h.applyIn log ctx d) (h.applyIn log' ctx' d) := by
  induction h generalizing ctx ctx' d with
  | identity => exact keepsUp_refl _
  | push var val => exact keepsUp_applyPush hlog hctx var val d
  | gather tgt coef inc =>
    exact (keepsUp_refl (edgesOf d)).bind_eq fun es => keepsUp_applyGather hlog hctx inc es
  | assign tgt coef inc =>
    exact (keepsUp_refl (edgesOf d)).bind_eq fun es => keepsUp_applyAssign hlog hctx inc es
  | compose one two ihone ihtwo =>
    refine (keepsUp_of_eq fun hsure => by rw [hctx hsure]).bind fun inner inner' hinner => ?_
    exact (ihtwo hinner d).bind_eq fun n => ihone hctx n
  | stuck one two =>
    refine (keepsUp_of_eq fun hsure => by rw [hctx hsure]).bind fun _ _ _ => ?_
    exact keepsUp_refl _

/-- A path that a traced application gives is given without lines too, and no two applications to a
path give different ones, whatever their contexts hold and whether or not they are traced. -/
theorem outcome_applyIn_untraced (h : Hom) (d : EdgeList) :
    (∀ ctx n, (h.applyIn true ctx d).outcome = .ok n → (h.applyIn false ctx d).outcome = .ok n) ∧
      ∀ log log' ctx ctx' n n', (h.applyIn log ctx d).outcome = .ok n →
        (h.applyIn log' ctx' d).outcome = .ok n' → n = n' := by
  constructor
  · intro ctx n hn
    have hsure : KeepsUp True Eq (h.applyIn true ctx d) (h.applyIn false ctx d) :=
      keepsUp_applyIn h (fun _ => rfl) (fun _ => rfl) d
    have hkeeps := hsure n hn
    cases hfree : (h.applyIn false ctx d).outcome with
    | error e =>
      rw [hfree] at hkeeps
      exact absurd trivial hkeeps
    | ok n' =>
      rw [hfree] at hkeeps
      exact congrArg Except.ok hkeeps.symm
  · intro log log' ctx ctx' n n' hn hn'
    have hunsure : KeepsUp False Eq (h.applyIn log ctx d) (h.applyIn log' ctx' d) :=
      keepsUp_applyIn h False.elim False.elim d
    have hkeeps := hunsure n hn
    rw [hn'] at hkeeps
    exact hkeeps

/-- A name with braces, in the context that is nothing but a hole and in one without a hole. -/
theorem outcome_applyIn_untraced_braces :
    let h := compose (push (.str "y") (.str "w")) (push (.str "\x7b\x7bx\x7d\x7d") (.str "v"))
    let d := EdgeList.ofEdges [(.str "a", .str "b")]
    let n := EdgeList.ofEdges
      [(.str "a", .str "b"), (.str "y", .str "w"), (.str "\x7b\x7bx\x7d\x7d", .str "v")]
    (h.applyIn false Context.hole d).outcome = .ok n ∧
      ∃ n', (h.applyIn true ['-'] d).outcome = .ok n' ∧ n' = n := by
  intro h d n
  have htraced : (h.applyIn true Context.hole d).outcome = .ok n := by cbv
  have huntraced := (outcome_applyIn_untraced h d).1 _ _ htraced
  have hother : (h.applyIn true ['-'] d).outcome = .ok n := by cbv
  exact ⟨huntraced, _, hother, (outcome_applyIn_untraced h d).2 _ _ _ _ _ _ hother huntraced⟩

end Hom

end DataDiagram
