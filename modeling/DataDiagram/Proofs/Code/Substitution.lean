import DataDiagram.Code.Subst
import DataDiagram.Proofs.Code.Semantics
/-!
# Substitution and values

Replacing the names of an expression by expressions gives the value that the expression has when the
names have the values of what replaces them.
-/

namespace DataDiagram

open List

variable {α β ε : Type} {b : β} {f : α → Except ε β} {x : Except ε α}

theorem exists_of_bind_eq_ok (h : (x >>= f) = .ok b) : ∃ a, x = .ok a ∧ f a = .ok b := by
  cases x with
  | error e => exact nomatch h
  | ok a => exact ⟨a, rfl, h⟩

theorem bind_eq_ok_iff : (x >>= f) = .ok b ↔ ∃ a, x = .ok a ∧ f a = .ok b := by
  refine ⟨exists_of_bind_eq_ok, ?_⟩
  rintro ⟨a, rfl, hf⟩
  exact hf

namespace Code

/-- An expression made of constants, operators and some names. -/
inductive Arith (vars : String → Prop) : Code → Prop
  | const {r d n} (hd : d.int? = some n) : Arith vars (constOf r d)
  | name {r x} (hx : vars x) : Arith vars (nameOf r x)
  | op {r symbol operands} (hops : ∀ c ∈ operands, Arith vars c) :
    Arith vars (opOf r symbol operands)

namespace Arith

variable {I : Operators} {vars vars' : String → Prop} {look look' : String → Int} {c c' : Code}

theorem isNode (h : Arith vars c) : c.isNode = true := by
  cases h <;> rfl

variable {cs : List Code}

theorem exists_evalAll (h : ∀ c ∈ cs, ∃ n, c.eval I look = some n) :
    ∃ ns, evalAll I look cs = some ns := by
  induction cs with
  | nil => exact ⟨[], rfl⟩
  | cons c cs ih =>
    obtain ⟨n, hn⟩ := h c mem_cons_self
    obtain ⟨ns, hns⟩ := ih fun d hd => h d (mem_cons_of_mem c hd)
    exact ⟨n :: ns, by rw [evalAll, hn, hns]; rfl⟩

theorem exists_eval (h : Arith vars c) (I : Operators) (look : String → Int) :
    ∃ n, c.eval I look = some n := by
  induction h with
  | const hd => exact ⟨_, hd⟩
  | name => exact ⟨_, rfl⟩
  | op _ ih =>
    obtain ⟨ns, hns⟩ := exists_evalAll ih
    exact ⟨_, by rw [eval, hns]; rfl⟩

theorem replaceName (h : Arith vars c) (r : Option Origin) (id : Code) :
    replaceName r id c = .ok c := by
  cases h <;> rfl

theorem mono (hvars : ∀ x, vars x → vars' x) (h : Arith vars c) : Arith vars' c := by
  induction h with
  | const hd => exact .const hd
  | name hx => exact .name (hvars _ hx)
  | op _ ih => exact .op ih

theorem evalAll_congr (h : ∀ c ∈ cs, c.eval I look = c.eval I look') :
    evalAll I look cs = evalAll I look' cs := by
  induction cs with
  | nil => rfl
  | cons c cs ih =>
    rw [evalAll, evalAll, h c mem_cons_self, ih fun d hd => h d (mem_cons_of_mem c hd)]

/-- An expression has the same value wherever its names have the same values. -/
theorem eval_congr (hc : Arith vars c) (h : ∀ x, vars x → look x = look' x) :
    c.eval I look = c.eval I look' := by
  induction hc with
  | const => rfl
  | name hx => exact congrArg some (h _ hx)
  | op _ ih => rw [eval, eval, evalAll_congr ih]

end Arith

variable {cs : List Code}

theorem substItems_eq_substAll (m : Substitution) (h : ∀ c ∈ cs, c.isNode = true) :
    substItems m cs = substAll m cs := by
  cases cs with
  | nil => rfl
  | cons c cs =>
    have hc : c.isNode = true := h c mem_cons_self
    rw [substItems, if_pos hc, substAll, requireNode, if_pos hc]
    rfl

theorem substAll_cons_eq_ok {m : Substitution} {c : Code} {out : List Code}
    (h : substAll m (c :: cs) = .ok out) :
    ∃ c' cs', subst m c = .ok c' ∧ substAll m cs = .ok cs' ∧ out = c' :: cs' := by
  rw [substAll] at h
  obtain ⟨_, -, h⟩ := exists_of_bind_eq_ok h
  obtain ⟨c', hc, h⟩ := exists_of_bind_eq_ok h
  obtain ⟨cs', hcs, h⟩ := exists_of_bind_eq_ok h
  exact ⟨c', cs', hc, hcs, (Except.ok.inj h).symm⟩

/-- `Renders I m vars look vars' look'` says that every name of `vars` has under `look` the value
that what replaces it by `m` has under `look'`. -/
def Renders (I : Operators) (m : Substitution) (vars : String → Prop) (look : String → Int)
    (vars' : String → Prop) (look' : String → Int) : Prop :=
  ∀ x, vars x → (m x = none ∧ vars' x ∧ look' x = look x) ∨
    ∃ a, m x = some a ∧ Arith vars' a ∧ a.eval I look' = some (look x)

namespace Arith

variable {I : Operators} {m : Substitution} {vars vars' : String → Prop}
  {look look' : String → Int} {c c' : Code} {cs cs' : List Code}

theorem substAll_of_forall
    (ih : ∀ c ∈ cs, ∀ c', subst m c = .ok c' → Arith vars' c' ∧ c'.eval I look' = c.eval I look)
    (h : substAll m cs = .ok cs') :
    (∀ c ∈ cs', Arith vars' c) ∧ evalAll I look' cs' = evalAll I look cs := by
  induction cs generalizing cs' with
  | nil =>
    cases h
    exact ⟨by simp, rfl⟩
  | cons c cs ihcs =>
    obtain ⟨c', rest, hc, hrest, rfl⟩ := substAll_cons_eq_ok h
    obtain ⟨harith, heval⟩ := ih c mem_cons_self c' hc
    obtain ⟨hall, hevals⟩ := ihcs (fun d hd => ih d (mem_cons_of_mem c hd)) hrest
    exact ⟨forall_mem_cons.2 ⟨harith, hall⟩, by rw [evalAll, evalAll, heval, hevals]⟩

/-- Substitution trades names for the values of what replaces them. -/
theorem subst (hm : Renders I m vars look vars' look') (hc : Arith vars c)
    (h : c.subst m = .ok c') : Arith vars' c' ∧ c'.eval I look' = c.eval I look := by
  induction hc generalizing c' with
  | @const r d n hd =>
    rw [Code.subst] at h
    obtain ⟨_, hv, h⟩ := exists_of_bind_eq_ok h
    obtain ⟨_, -, h⟩ := exists_of_bind_eq_ok h
    cases hv
    cases h
    exact ⟨.const hd, rfl⟩
  | @name r x hx =>
    rw [Code.subst, substName] at h
    rcases hm x hx with ⟨hnone, hvar, hlook⟩ | ⟨a, hsome, ha, heval⟩
    · simp only [hnone] at h
      cases h
      exact ⟨.name hvar, congrArg some hlook⟩
    · simp only [hsome, ha.replaceName] at h
      cases h
      exact ⟨ha, heval⟩
  | @op r symbol operands hops ih =>
    rw [Code.subst] at h
    obtain ⟨_, ho, h⟩ := exists_of_bind_eq_ok h
    obtain ⟨_, hcs, h⟩ := exists_of_bind_eq_ok h
    obtain ⟨_, -, h⟩ := exists_of_bind_eq_ok h
    rw [Code.subst] at hcs
    obtain ⟨operands', hitems, hcs⟩ := exists_of_bind_eq_ok hcs
    cases ho
    cases hcs
    cases h
    rw [substItems_eq_substAll m fun d hd => (hops d hd).isNode] at hitems
    obtain ⟨hall, hevals⟩ := substAll_of_forall (fun d hd d' => ih d hd) hitems
    exact ⟨.op hall, by rw [eval, eval, hevals]⟩

theorem substAll (hm : Renders I m vars look vars' look') (hcs : ∀ c ∈ cs, Arith vars c)
    (h : Code.substAll m cs = .ok cs') :
    (∀ c ∈ cs', Arith vars' c) ∧ evalAll I look' cs' = evalAll I look cs :=
  substAll_of_forall (fun c hc _ => subst hm (hcs c hc)) h

end Arith

end Code

/-! ## Replacing names by expressions -/

namespace Substitution

/-- Names are replaced by expressions. -/
def IsArith (m : Substitution) : Prop := ∀ x a, m x = some a → Code.Arith (fun _ => True) a

/-- The value that a name has when it is replaced. -/
def look (I : Operators) (m : Substitution) (s : Valuation) (x : String) : Int :=
  match m x with
  | some a => (a.eval I s).getD 0
  | none => s x

theorem IsArith.renders {m : Substitution} (hm : m.IsArith) (I : Operators) (s : Valuation) :
    Code.Renders I m (fun _ => True) (m.look I s) (fun _ => True) s := by
  intro x _
  cases hx : m x with
  | none => exact .inl ⟨rfl, trivial, by rw [look, hx]⟩
  | some a =>
    have ha := hm x a hx
    obtain ⟨n, hn⟩ := ha.exists_eval I s
    exact .inr ⟨a, rfl, ha, by simp [look, hx, hn]⟩

theorem ofList_cons (key : String) (c : Code) (entries : List (String × Code)) (x : String) :
    ofList ((key, c) :: entries) x = (ofList entries x).or (if key = x then some c else none) := by
  rw [ofList, reverse_cons, List.find?_append, Option.map_or, ofList]
  by_cases h : key = x <;> simp [h]

end Substitution

namespace Code.Arith

variable {m m' : Substitution} {vars : String → Prop} {c d : Code} {cs ds : List Code}

theorem eval_subst (hm : m.IsArith) (hc : Arith vars c) (h : c.subst m = .ok d) (I : Operators)
    (s : Valuation) : Arith (fun _ => True) d ∧ d.eval I s = c.eval I (m.look I s) :=
  (hc.mono fun _ _ => trivial).subst (hm.renders I s) h

theorem exists_substAll_of_forall (h : Code.substAll m cs = .ok ds)
    (ih : ∀ c ∈ cs, ∀ d, c.subst m = .ok d → ∃ d', c.subst m' = .ok d') :
    ∃ ds', Code.substAll m' cs = .ok ds' := by
  induction cs generalizing ds with
  | nil => exact ⟨[], rfl⟩
  | cons c cs ihcs =>
    rw [Code.substAll] at h
    obtain ⟨_, hnode, h₁⟩ := bind_eq_ok_iff.1 h
    obtain ⟨d, hd, h₂⟩ := bind_eq_ok_iff.1 h₁
    obtain ⟨rest, hrest, -⟩ := bind_eq_ok_iff.1 h₂
    obtain ⟨d', hd'⟩ := ih c mem_cons_self d hd
    obtain ⟨rest', hrest'⟩ := ihcs hrest fun e he => ih e (mem_cons_of_mem c he)
    exact ⟨d' :: rest', by rw [Code.substAll, hnode, hd', hrest']; rfl⟩

/-- Whether names can be replaced by expressions does not depend on the expressions. -/
theorem exists_subst (hm' : m'.IsArith) (hc : Arith vars c) (h : c.subst m = .ok d) :
    ∃ d', c.subst m' = .ok d' := by
  induction hc generalizing d with
  | const => exact ⟨d, h⟩
  | @name r x hx =>
    rw [Code.subst, substName]
    cases hx' : m' x with
    | none => exact ⟨_, rfl⟩
    | some a => exact ⟨a, (hm' x a hx').replaceName r _⟩
  | @op r symbol operands hops ih =>
    have hnode : ∀ e ∈ operands, e.isNode = true := fun e he => (hops e he).isNode
    rw [Code.subst, Code.subst, Code.subst, substItems_eq_substAll m hnode] at h
    rw [Code.subst, Code.subst, Code.subst, substItems_eq_substAll m' hnode]
    obtain ⟨o, ho, h₁⟩ := bind_eq_ok_iff.1 h
    obtain ⟨cs, hcs, h₂⟩ := bind_eq_ok_iff.1 h₁
    obtain ⟨_, href, -⟩ := bind_eq_ok_iff.1 h₂
    obtain ⟨ds, hds, -⟩ := bind_eq_ok_iff.1 hcs
    obtain ⟨ds', hds'⟩ := exists_substAll_of_forall hds fun e he f => ih e he
    cases ho
    exact ⟨.op r (text symbol) (tuple ds'), by rw [hds', href]; rfl⟩

end Code.Arith

end DataDiagram
