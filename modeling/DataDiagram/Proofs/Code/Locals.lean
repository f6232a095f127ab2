import DataDiagram.Proofs.Code.Straight
import Mathlib.Algebra.Ring.Int.Defs
/-!
# Locals and what is left in them

A call gives the locals of a function names of their own and assigns nothing to them: the initial
values that they are declared with are no part of the statements that replace the call.  So what a
local holds before the call matters unless the body gives it a value first.
-/

namespace DataDiagram

open List

namespace Code

/-- `Initialised ρ unset body` says that no variable of `unset` is read in `body` before it has been
given a value; names are those that `ρ` makes of the names in the body. -/
def Initialised (ρ : String → String) : List String → List Code → Prop
  | unset, .assign _ (nameOf _ x) v o :: rest =>
    Arith (fun z => ρ z ∉ unset) v ∧ (o = nothing ∨ ρ x ∉ unset) ∧
      Initialised ρ (unset.filter (· ≠ ρ x)) rest
  | unset, .ret _ v :: _ => Arith (fun z => ρ z ∉ unset) v
  | unset, _ :: rest => Initialised ρ unset rest
  | _, [] => True

variable {I : Operators} {s₁ s₂ : Valuation} {m : Substitution} {ρ : String → String}
  {unset : List String} {body : List Code} {y : String} {z : String}

theorem look_congr_of_closed (hm : ∀ x a, m x = some a → Arith (fun _ => False) a)
    (hs : ∀ z ∉ unset, s₁ z = s₂ z) (hz : z ∉ unset) :
    m.look I s₁ z = m.look I s₂ z := by
  unfold Substitution.look
  cases ha : m z with
  | none => exact hs z hz
  | some a =>
    have heval : a.eval I s₁ = a.eval I s₂ := (hm z a ha).eval_congr fun _ => False.elim
    simp only [heval]

/-- An assignment settles its variable, whatever it held if there is no operator. -/
theorem store_congr {x : String} {o : Option String} (ho : o = none ∨ x ∉ unset)
    (hs : ∀ z ∉ unset, s₁ z = s₂ z) (n : Int) (hz : z ∉ unset.filter (· ≠ x)) :
    I.store (some x) o (some n) s₁ z = I.store (some x) o (some n) s₂ z := by
  by_cases hx : z = x
  · rw [hx, store_self, store_self]
    rcases ho with rfl | hset
    · rfl
    · rw [hs x hset]
  · rw [store_of_ne hx, store_of_ne hx]
    exact hs z fun hmem => hz (mem_filter.2 ⟨hmem, decide_eq_true hx⟩)

/-- Two runs that start apart in unset variables only end apart in these only, and agree on the
value that is returned. -/
theorem Straight.effect_congr (h : Straight body)
    (hm : ∀ x a, m x = some a → Arith (fun _ => False) a) (hinit : Initialised ρ unset body)
    (hs : ∀ z ∉ unset, s₁ z = s₂ z) :
    (∀ z ∉ unset, effect I (fun s x => m.look I s (ρ x)) ρ y body s₁ z =
        effect I (fun s x => m.look I s (ρ x)) ρ y body s₂ z) ∧
      effect I (fun s x => m.look I s (ρ x)) ρ y body s₁ y =
        effect I (fun s x => m.look I s (ρ x)) ρ y body s₂ y := by
  -- Each assignment takes its variable out of the unset ones, and what is read is outside of them.
  induction h generalizing unset s₁ s₂ with
  | pass _ ih => exact ih hinit hs
  | @assign r t x v aug rest hv _ ih =>
    obtain ⟨hvalue, haug, hrest⟩ := hinit
    obtain ⟨n, hn⟩ := hv.exists_eval I fun x => m.look I s₁ (ρ x)
    have hn' : (v.eval I fun x => m.look I s₂ (ρ x)) = some n :=
      (hvalue.eval_congr fun z hz => look_congr_of_closed hm hs hz).symm.trans hn
    have ho : aug = none ∨ ρ x ∉ unset := haug.imp_left fun h => by cases aug <;> simp_all [ofText?]
    obtain ⟨hout, hy⟩ := ih hrest fun z hz => store_congr ho hs n hz
    simp only [effect, augOf_ofText?, hn, hn']
    exact ⟨fun z hz => hout z fun hmem => hz (mem_filter.1 hmem).1, hy⟩
  | @ret r v hv =>
    obtain ⟨n, hn⟩ := hv.exists_eval I fun x => m.look I s₁ (ρ x)
    have hn' : (v.eval I fun x => m.look I s₂ (ρ x)) = some n :=
      (hinit.eval_congr fun z hz => look_congr_of_closed hm hs hz).symm.trans hn
    simp only [effect, hn, hn']
    refine ⟨fun z hz => store_congr (.inl rfl) hs n fun hmem => hz (mem_filter.1 hmem).1, ?_⟩
    rw [store_self, store_self]
    rfl

end Code

namespace Func

open Code

/-- The names that the locals of a function have outside of it. -/
def outerLocals (f : Func) : List String := f.locals.map fun v => f.localName v.name

/-- A call of a function that gives its locals values before it reads them leaves nothing of what
they held before: from variables that differ in the locals only, the statements that replace the
call end in variables that differ in the locals only, and in the same result. -/
theorem exec_call_fresh (I : Operators) {defs : List Func} {f : Func} {b : Option Origin}
    {body : List Code} (hbody : f.body = .block b body) (hstraight : Straight body)
    (hinit : Initialised f.outerName f.outerLocals body) {args : List Code}
    (hargs : ∀ a ∈ args, Arith (fun _ => False) a) {t : Option Origin} {y : String}
    {out : List Code}
    (h : f.call defs args (some (nameOf t y)) none [] = .ok out) {s₁ s₂ : Valuation}
    (hs : ∀ z ∉ f.outerLocals, s₁ z = s₂ z) :
    ∃ s₁' s₂', (∀ e s, Exec I defs .empty out s₁ e s ↔ e = .fell ∧ s = s₁') ∧
      (∀ e s, Exec I defs .empty out s₂ e s ↔ e = .fell ∧ s = s₂') ∧
      (∀ z ∉ f.outerLocals, s₁' z = s₂' z) ∧ s₁' y = s₂' y := by
  obtain ⟨-, -, scope, hscope, hout⟩ := (call_eq_ok_iff hbody hstraight).1 h
  have hrenames := renames_scopeEntries hscope
  have hm := isArith_ofArguments hargs f.args
  have hclosed := fun x a (ha : Substitution.ofArguments (f.args.map text) args x = some a) =>
    hargs a (mem_of_ofArguments ha)
  have hagree := hstraight.effect_congr (I := I) (y := y) hclosed hinit hs
  have hexec := hstraight.exec_inlineBody I defs hrenames hm hout
  exact ⟨_, _, (hexec s₁).iff_eq, (hexec s₂).iff_eq, hagree⟩

end Func

section Sample

open Code

/-- What is left in the local of the functions below; all other variables are zero. -/
def sampleLeft (n : Int) : Valuation := Function.update (fun _ => 0) "f_x" n

/-- Gives its local a value and reads it afterwards. -/
def sampleFresh : Func :=
  let o := sampleOrigin
  ⟨o, "f", ["p"], .block o [
    .assign o (nameOf o "x") (nameOf o "p") (ofText? none),
    .assign o (nameOf o "x") (constOf o (.int 1)) (ofText? (some "+")),
    .ret o (nameOf o "x")], [], [⟨o, "x", "int", nothing, constOf o (.int 0)⟩]⟩

/-- A call that does not see what was left in its local. -/
theorem Func.exec_call_fresh_assigned : ∃ out,
    sampleFresh.call [] [constOf none (.int 5)] (some (nameOf none "y")) none [] = .ok out ∧
    (∀ z ∉ ["f_x"], sampleLeft 0 z = sampleLeft 7 z) ∧
    ∀ I :
    Operators, ∃ s₁ s₂, (∀ e s, Exec I [] .empty out (sampleLeft 0) e s ↔ e = .fell ∧ s = s₁) ∧
      (∀ e s, Exec I [] .empty out (sampleLeft 7) e s ↔ e = .fell ∧ s = s₂) ∧
      (∀ z ∉ ["f_x"], s₁ z = s₂ z) ∧ s₁ "y" = s₂ "y" := by
  have hcall : sampleFresh.call [] [constOf none (.int 5)] (some (nameOf none "y")) none [] =
      .ok [.assign sampleOrigin (nameOf sampleOrigin "f_x") (constOf none (.int 5)) nothing,
        .assign sampleOrigin (nameOf sampleOrigin "f_x") (constOf sampleOrigin (.int 1)) (text "+"),
        .assign sampleOrigin (nameOf none "y") (nameOf sampleOrigin "f_x") nothing] := by
    cbv
  have hs : ∀ z ∉ ["f_x"], sampleLeft 0 z = sampleLeft 7 z := by
    intro z hz
    rw [mem_singleton] at hz
    rw [sampleLeft, sampleLeft, Function.update_of_ne hz, Function.update_of_ne hz]
  have hargs : ∀ a ∈ [constOf none (.int 5)], Arith (fun _ => False) a :=
    forall_mem_singleton.2 (.const rfl)
  have hinit : Initialised sampleFresh.outerName sampleFresh.outerLocals [
      .assign sampleOrigin (nameOf sampleOrigin "x") (nameOf sampleOrigin "p") (ofText? none),
      .assign sampleOrigin (nameOf sampleOrigin "x") (constOf sampleOrigin (.int 1))
        (ofText? (some "+")),
      .ret sampleOrigin (nameOf sampleOrigin "x")] :=
    ⟨.name (by decide), .inl rfl, .const rfl, .inr (by decide), .name (by decide)⟩
  exact ⟨_, hcall, hs, fun I => Func.exec_call_fresh I rfl
    (.assign (.name trivial) (.assign (.const rfl) (.ret (.name trivial)))) hinit hargs hcall hs⟩

/-- Adds to its local and returns it. -/
def sampleStale : Func :=
  let o := sampleOrigin
  ⟨o, "f", [], .block o [
    .assign o (nameOf o "x") (constOf o (.int 1)) (ofText? (some "+")),
    .ret o (nameOf o "x")], [], [⟨o, "x", "int", nothing, constOf o (.int 0)⟩]⟩

/-- A call that returns one more than what was left in its local, for all that the local is declared
to be zero. -/
theorem Func.exec_call_stale :
    (∃ b body, sampleStale.body = .block b body ∧ Straight body) ∧
    ∃ out, sampleStale.call [] [] (some (nameOf none "y")) none [] = .ok out ∧
      ∀ n, ∃ s, s "y" = n + 1 ∧
        Exec (fun _ vals => vals.sum) [] .empty out (sampleLeft n) .fell s := by
  have hcall : sampleStale.call [] [] (some (nameOf none "y")) none [] =
      .ok [.assign sampleOrigin (nameOf sampleOrigin "f_x") (constOf sampleOrigin (.int 1))
        (text "+"),
        .assign sampleOrigin (nameOf none "y") (nameOf sampleOrigin "f_x") nothing] := by
    cbv
  have hplain : nothing = ofText? none := rfl
  have hplus : text "+" = ofText? (some "+") := rfl
  refine ⟨⟨_, _, rfl, .assign (.const rfl) (.ret (.name trivial))⟩, _, hcall, fun n =>
    ⟨_, ?_, .assign hplus rfl (.assign hplain rfl .nil)⟩⟩
  simp [Operators.store, Operators.update, Frame.look, Frame.empty, sampleLeft]

end Sample

end DataDiagram
