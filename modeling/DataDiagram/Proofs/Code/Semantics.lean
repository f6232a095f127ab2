import DataDiagram.Code.Basic
import Mathlib.Logic.Function.Basic
/-!
# What code does

The meaning of the part of the language that computes with integers.  Expressions are constants,
names and operators, whatever the operators stand for.  Statements are executed one after the other;
a call executes the body of the function with values for its parameters, and what it returns goes to
the target of the call when the body has been executed.  A call that ends without a value leaves its
target alone.
-/

namespace DataDiagram

abbrev Operators := String → List Int → Int

/-- The values of the variables. -/
abbrev Valuation := String → Int

/-- The values of the parameters of a function. -/
abbrev Frame := String → Option Int

namespace Frame

/-- Nothing is a parameter. -/
def empty : Frame := fun _ => none

def ofValues (params : List String) (vals : List Int) : Frame := fun x => (params.zip vals).lookup x

/-- The value of a name: parameters hide variables. -/
def look (ρ : Frame) (s : Valuation) (x : String) : Int := (ρ x).getD (s x)

end Frame

namespace Operators

/-- The value that an assignment of `n` leaves in a variable; with an operator it updates the old
one. -/
def update (I : Operators) (aug : Option String) (old n : Int) : Int :=
  match aug with
  | none => n
  | some o => I o [old, n]

/-- What becomes of the variables when a result goes to a target; either may be missing. -/
def store (I : Operators) (target aug : Option String) (result : Option Int) (s : Valuation) :
    Valuation :=
  match target, result with
  | some x, some n => Function.update s x (I.update aug (s x) n)
  | _, _ => s

end Operators

/-- How some statements end. -/
inductive Ending
  /-- The last statement has been executed. -/
  | fell
  /-- The function has been left, with a value or without. -/
  | returned (result : Option Int)
  deriving DecidableEq

/-- The value that a function ends with, if any. -/
def Ending.result : Ending → Option Int
  | fell => none
  | returned result => result

namespace Code

mutual

/-- The value of an expression. -/
def eval (I : Operators) (look : String → Int) : Code → Option Int
  | const _ (datum d) => d.int?
  | name _ (datum (.str x)) => some (look x)
  | op _ (datum (.str symbol)) (tuple operands) => (evalAll I look operands).map (I symbol)
  | _ => none

/-- The values of some expressions. -/
def evalAll (I : Operators) (look : String → Int) : List Code → Option (List Int)
  | [] => some []
  | c :: rest => do
    let n ← eval I look c
    let more ← evalAll I look rest
    return n :: more

end

/-- `Exec I defs ρ body s e s'` says that the statements `body`, executed with the parameters `ρ`
from the variables `s`, end as `e` and leave the variables `s'`. -/
inductive Exec (I : Operators) (defs : List Func) :
    Frame → List Code → Valuation → Ending → Valuation → Prop
  | nil {ρ s} : Exec I defs ρ [] s .fell s
  | pass {ρ r rest s e s'} (next : Exec I defs ρ rest s e s') :
    Exec I defs ρ (.pass r :: rest) s e s'
  | assign {ρ r t x v op aug n rest s e s'} (hop : op = ofText? aug)
    (hv : v.eval I (ρ.look s) = some n)
    (next : Exec I defs ρ rest (I.store (some x) aug (some n) s) e s') :
    Exec I defs ρ (.assign r (nameOf t x) v op :: rest) s e s'
  | assignCall {ρ r t x c callee args op aug g b body vals rest s e₁ s₁ e s'}
    (hop : op = ofText? aug) (hg : defs.find? (fun g => g.name == callee) = some g)
    (hbody : g.body = .block b body) (hargs : evalAll I (ρ.look s) args = some vals)
    (hlen : vals.length = g.args.length) (call : Exec I defs (.ofValues g.args vals) body s e₁ s₁)
    (next : Exec I defs ρ rest (I.store (some x) aug e₁.result s₁) e s') :
    Exec I defs ρ (.assign r (nameOf t x) (callOf c callee args) op :: rest) s e s'
  | bareCall {ρ r c callee args g b body vals rest s e₁ s₁ e s'}
    (hg : defs.find? (fun g => g.name == callee) = some g)
    (hbody : g.body = .block b body) (hargs : evalAll I (ρ.look s) args = some vals)
    (hlen : vals.length = g.args.length) (call : Exec I defs (.ofValues g.args vals) body s e₁ s₁)
    (next : Exec I defs ρ rest s₁ e s') :
    Exec I defs ρ (.bareCall r (callOf c callee args) :: rest) s e s'
  | condFell {ρ r t n ra a rb b rest s s₁ e s'} (ht : t.eval I (ρ.look s) = some n)
    (branch : Exec I defs ρ (if n = 0 then b else a) s .fell s₁)
    (next : Exec I defs ρ rest s₁ e s') :
    Exec I defs ρ (.cond r t (.block ra a) (.block rb b) :: rest) s e s'
  | condReturned {ρ r t n ra a rb b rest s result s₁} (ht : t.eval I (ρ.look s) = some n)
    (branch : Exec I defs ρ (if n = 0 then b else a) s (.returned result) s₁) :
    Exec I defs ρ (.cond r t (.block ra a) (.block rb b) :: rest) s (.returned result) s₁
  | ret {ρ r v n rest s} (hv : v.eval I (ρ.look s) = some n) :
    Exec I defs ρ (.ret r v :: rest) s (.returned (some n)) s
  | bareRet {ρ r rest s} : Exec I defs ρ (.ret r nothing :: rest) s (.returned none) s

theorem ofText?_inj {a b : Option String} (h : ofText? a = ofText? b) : a = b := by
  cases a <;> cases b <;> simp_all [ofText?]

variable {I : Operators} {defs : List Func} {e₂ : Ending} {s s₁ s₂ : Valuation} {ρ : Frame}
  {body : List Code} {e : Ending}

/-- Executing the same statements from the same variables ends in one way only. -/
theorem Exec.unique {e₁ : Ending} (h₁ : Exec I defs ρ body s e₁ s₁)
    (h₂ : Exec I defs ρ body s e₂ s₂) : e₁ = e₂ ∧ s₁ = s₂ := by
  induction h₁ generalizing e₂ s₂ with
  | nil => cases h₂; exact ⟨rfl, rfl⟩
  | pass _ ih => cases h₂ with | pass next => exact ih next
  | assign hop hv _ ih =>
    cases h₂ with
    | assign hop' hv' next =>
      obtain rfl := ofText?_inj (hop.symm.trans hop')
      obtain rfl := Option.some.inj (hv.symm.trans hv')
      exact ih next
    | assignCall => simp [eval] at hv
  | assignCall hop hg hbody hargs hlen call _ ihcall ih =>
    cases h₂ with
    | assign _ hv => simp [eval] at hv
    | assignCall hop' hg' hbody' hargs' _ call' next =>
      obtain rfl := ofText?_inj (hop.symm.trans hop')
      obtain rfl := Option.some.inj (hg.symm.trans hg')
      obtain rfl := Option.some.inj (hargs.symm.trans hargs')
      cases hbody.symm.trans hbody'
      obtain ⟨rfl, rfl⟩ := ihcall call'
      exact ih next
  | bareCall hg hbody hargs hlen call _ ihcall ih =>
    cases h₂ with
    | bareCall hg' hbody' hargs' _ call' next =>
      obtain rfl := Option.some.inj (hg.symm.trans hg')
      obtain rfl := Option.some.inj (hargs.symm.trans hargs')
      cases hbody.symm.trans hbody'
      obtain ⟨rfl, rfl⟩ := ihcall call'
      exact ih next
  | condFell ht _ _ ihbranch ih =>
    cases h₂ with
    | condFell ht' branch' next =>
      obtain rfl := Option.some.inj (ht.symm.trans ht')
      obtain ⟨-, rfl⟩ := ihbranch branch'
      exact ih next
    | condReturned ht' branch' =>
      obtain rfl := Option.some.inj (ht.symm.trans ht')
      exact absurd (ihbranch branch').1 (by simp)
  | condReturned ht _ ihbranch =>
    cases h₂ with
    | condFell ht' branch' =>
      obtain rfl := Option.some.inj (ht.symm.trans ht')
      exact absurd (ihbranch branch').1 (by simp)
    | condReturned ht' branch' =>
      obtain rfl := Option.some.inj (ht.symm.trans ht')
      exact ihbranch branch'
  | ret hv =>
    cases h₂ with
    | ret hv' =>
      obtain rfl := Option.some.inj (hv.symm.trans hv')
      exact ⟨rfl, rfl⟩
    | bareRet => simp [eval] at hv
  | bareRet =>
    cases h₂ with
    | ret hv => simp [eval] at hv
    | bareRet => exact ⟨rfl, rfl⟩

theorem Exec.iff_eq {s' : Valuation} (h : Exec I defs ρ body s e s') (e₂ : Ending)
    (s₂ : Valuation) :
    Exec I defs ρ body s e₂ s₂ ↔ e₂ = e ∧ s₂ = s' := by
  refine ⟨fun h₂ => h₂.unique h, ?_⟩
  rintro ⟨rfl, rfl⟩
  exact h

theorem Exec.append {first more : List Code} (h₁ : Exec I defs ρ first s e s₁) (he : e = .fell)
    (h₂ : Exec I defs ρ more s₁ e₂ s₂) : Exec I defs ρ (first ++ more) s e₂ s₂ := by
  induction h₁ with
  | nil => exact h₂
  | pass _ ih => exact .pass (ih he h₂)
  | assign hop hv _ ih => exact .assign hop hv (ih he h₂)
  | assignCall hop hg hbody hargs hlen call _ _ ih =>
    exact .assignCall hop hg hbody hargs hlen call (ih he h₂)
  | bareCall hg hbody hargs hlen call _ _ ih =>
    exact .bareCall hg hbody hargs hlen call (ih he h₂)
  | condFell ht branch _ _ ih => exact .condFell ht branch (ih he h₂)
  | condReturned | ret | bareRet => exact nomatch he

end Code

/-- `f.Runs I defs vals s result s'` says that a call of `f` with the given values, made when the
variables are `s`, ends with a result and leaves the variables `s'`. -/
def Func.Runs (I : Operators) (defs : List Func) (f : Func) (vals : List Int) (s : Valuation)
    (result : Option Int) (s' : Valuation) : Prop :=
  ∃ b body e, f.body = .block b body ∧ vals.length = f.args.length ∧
    Code.Exec I defs (.ofValues f.args vals) body s e s' ∧ e.result = result

theorem Func.Runs.unique {I : Operators} {defs : List Func} {f : Func} {vals : List Int}
    {s s₁ s₂ : Valuation} {r₁ r₂ : Option Int} (h₁ : f.Runs I defs vals s r₁ s₁)
    (h₂ : f.Runs I defs vals s r₂ s₂) : r₁ = r₂ ∧ s₁ = s₂ := by
  obtain ⟨b, body, e₁, hbody, -, hexec, rfl⟩ := h₁
  obtain ⟨b', body', e₂, hbody', -, hexec', rfl⟩ := h₂
  cases hbody.symm.trans hbody'
  obtain ⟨rfl, rfl⟩ := hexec.unique hexec'
  exact ⟨rfl, rfl⟩

end DataDiagram
