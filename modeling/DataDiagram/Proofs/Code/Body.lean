import DataDiagram.Code.Returns
import DataDiagram.Proofs.Code.Substitution
/-!
# Bodies of functions on integers

The statements of functions that compute with integers and whose calls have arguments without
variables.  Their returns are normal already, binding parameters in them is substitution, and
substituting nothing leaves them as they are.
-/

namespace DataDiagram

open List

namespace Code

/-- `Body params tail body` says that `body` consists of statements about integers that assign no
parameter, in which calls are whole values or whole statements, their arguments holding no
variables, and in which a return, allowed only if `tail`, has nothing after it. -/
inductive Body (params : List String) : Bool → List Code → Prop
  | nil {tail} : Body params tail []
  | pass {tail r rest} (next : Body params tail rest) : Body params tail (.pass r :: rest)
  | assign {tail r t x v aug rest} (hx : x ∉ params) (hv : Arith (fun _ => True) v)
    (next : Body params tail rest) :
    Body params tail (.assign r (nameOf t x) v (ofText? aug) :: rest)
  | assignCall {tail r t x c callee args aug rest} (hx : x ∉ params)
    (hargs : ∀ a ∈ args, Arith (· ∈ params) a) (next : Body params tail rest) :
    Body params tail (.assign r (nameOf t x) (callOf c callee args) (ofText? aug) :: rest)
  | bareCall {tail r c callee args rest} (hargs : ∀ a ∈ args, Arith (· ∈ params) a)
    (next : Body params tail rest) : Body params tail (.bareCall r (callOf c callee args) :: rest)
  | cond {tail r t ra a rb b rest} (ht : Arith (fun _ => True) t)
    (then_ : Body params (tail && rest.isEmpty) a) (else_ : Body params (tail && rest.isEmpty) b)
    (next : Body params tail rest) :
    Body params tail (.cond r t (.block ra a) (.block rb b) :: rest)
  | ret {r v} (hv : Arith (fun _ => True) v) : Body params true [.ret r v]
  | bareRet {r} : Body params true [.ret r nothing]

/-! ## Blocks in blocks -/

/-- Statements none of which is opened in a block. -/
def Flat (body : List Code) : Prop := ∀ c ∈ body, c.flatten = [c]

theorem Flat.flattenAll {body : List Code} (h : Flat body) : flattenAll body = body := by
  induction body with
  | nil => rfl
  | cons c body ih =>
    rw [Code.flattenAll, h c mem_cons_self, ih fun d hd => h d (mem_cons_of_mem c hd)]
    rfl

theorem Flat.mkBlock {body : List Code} (h : Flat body) (r : Option Origin) :
    mkBlock r body = .block r body := by
  rw [Code.mkBlock, h.flattenAll]

theorem Flat.append {first more : List Code} (h₁ : Flat first) (h₂ : Flat more) :
    Flat (first ++ more) :=
  fun c hc => (mem_append.1 hc).elim (h₁ c) (h₂ c)

theorem Flat.cons {c : Code} {body : List Code} (hc : c.flatten = [c]) (h : Flat body) :
    Flat (c :: body) :=
  forall_mem_cons.2 ⟨hc, h⟩

theorem flat_nil : Flat [] := by simp [Flat]

variable {params : List String} {tail : Bool} {body : List Code}

theorem Body.flat (h : Body params tail body) : Flat body := by
  induction h with
  | nil => exact flat_nil
  | pass _ ih | assign _ _ _ ih | assignCall _ _ _ ih | bareCall _ _ ih | cond _ _ _ _ _ _ ih =>
    exact .cons rfl ih
  | ret | bareRet => exact .cons rfl flat_nil

theorem Body.isNode (h : Body params tail body) : ∀ c ∈ body, c.isNode = true := by
  induction h with
  | nil => simp
  | pass _ ih | assign _ _ _ ih | assignCall _ _ _ ih | bareCall _ _ ih | cond _ _ _ _ _ _ ih =>
    exact forall_mem_cons.2 ⟨rfl, ih⟩
  | ret | bareRet => simp [Code.isNode]

/-! ## Returns -/

theorem Body.endsWithRet (h : Body params tail body) (r : Option Origin)
    (hret : (Code.block r body).endsWithRet = true) : tail = true := by
  induction h with
  | nil => simp [Code.endsWithRet] at hret
  | @pass _ _ rest _ ih | @assign _ _ _ _ _ _ rest _ _ _ ih
  | @assignCall _ _ _ _ _ _ _ _ rest _ _ _ ih | @bareCall _ _ _ _ _ rest _ _ ih
  | @cond _ _ _ _ _ _ _ rest _ _ _ _ _ _ ih =>
    cases rest with
    | nil => simp [Code.endsWithRet, isRet] at hret
    | cons d rest => exact ih hret
  | ret | bareRet => rfl

variable {c : Code} {m : Substitution}

theorem normalReturns_eq (hflat : Flat body)
    (hbody : ∀ items, normalItems body = .ok items → items = body) {r : Option Origin}
    (hc : normalReturns (.block r body) = .ok c) : c = .block r body := by
  rw [normalReturns] at hc
  obtain ⟨items, hitems, hc⟩ := exists_of_bind_eq_ok hc
  obtain ⟨_, -, hc⟩ := exists_of_bind_eq_ok hc
  rw [hbody items hitems, hflat.mkBlock] at hc
  exact (Except.ok.inj hc).symm

/-- Returns that have nothing after them are normal. -/
theorem Body.normalItems (h : Body params tail body) {items : List Code}
    (hitems : normalItems body = .ok items) : items = body := by
  induction h generalizing items with
  | nil => exact (Except.ok.inj hitems).symm
  | pass _ ih | assign _ _ _ ih | assignCall _ _ _ ih | bareCall _ _ ih =>
    rw [Code.normalItems] at hitems
    · obtain ⟨more, hmore, hpure⟩ := exists_of_bind_eq_ok hitems
      rw [ih hmore] at hpure
      exact (Except.ok.inj hpure).symm
    all_goals simp
  | ret | bareRet => exact (Except.ok.inj hitems).symm
  | @cond tail r t ra a rb b rest ht hthen helse hnext iha ihb ih =>
    rw [Code.normalItems] at hitems
    obtain ⟨a', ha, hitems⟩ := exists_of_bind_eq_ok hitems
    obtain ⟨b', hb, hitems⟩ := exists_of_bind_eq_ok hitems
    obtain ⟨_, -, hitems⟩ := exists_of_bind_eq_ok hitems
    obtain rfl := normalReturns_eq hthen.flat (fun _ => iha) ha
    obtain rfl := normalReturns_eq helse.flat (fun _ => ihb) hb
    split at hitems
    · next hboth =>
        -- Both branches return, so that nothing can follow the choice.
        rw [Bool.and_eq_true] at hboth
        have htail := hthen.endsWithRet ra hboth.1
        rw [Bool.and_eq_true, List.isEmpty_iff] at htail
        rw [htail.2]
        exact (Except.ok.inj hitems).symm
    · split at hitems
      · obtain ⟨_, -, hitems⟩ := exists_of_bind_eq_ok hitems
        exact nomatch hitems
      · obtain ⟨more, hmore, hpure⟩ := exists_of_bind_eq_ok hitems
        rw [ih hmore] at hpure
        exact (Except.ok.inj hpure).symm

/-! ## Parameters -/

section Substitution

variable {m : Substitution} {r : Option Origin}

theorem subst_ofText? (m : Substitution) (aug : Option String) :
    subst m (ofText? aug) = .ok (ofText? aug) := by
  cases aug <;> rfl

variable {x : String}

theorem subst_nameOf_of_none (h : m x = none) (r : Option Origin) :
    subst m (nameOf r x) = .ok (nameOf r x) := by
  rw [subst, substName]
  simp only [h]

variable {c t v : Code} {aug : Option String}

theorem subst_pass_eq_ok (h : subst m (.pass r) = .ok c) : c = .pass r := by
  rw [subst] at h
  obtain ⟨_, -, h⟩ := exists_of_bind_eq_ok h
  exact (Except.ok.inj h).symm

theorem subst_assign_parts (h : subst m (.assign r t v (ofText? aug)) = .ok c) :
    ∃ t' v', subst m t = .ok t' ∧ subst m v = .ok v' ∧ c = .assign r t' v' (ofText? aug) := by
  rw [subst, subst_ofText?] at h
  obtain ⟨t', ht, h⟩ := exists_of_bind_eq_ok h
  obtain ⟨v', hv, h⟩ := exists_of_bind_eq_ok h
  obtain ⟨_, ho, h⟩ := exists_of_bind_eq_ok h
  obtain ⟨_, -, h⟩ := exists_of_bind_eq_ok h
  cases ho
  exact ⟨t', v', ht, hv, (Except.ok.inj h).symm⟩

theorem subst_assign_eq_ok {t : Option Origin}
    (hx : m x = none) (h : subst m (.assign r (nameOf t x) v (ofText? aug)) = .ok c) :
    ∃ v', subst m v = .ok v' ∧ c = .assign r (nameOf t x) v' (ofText? aug) := by
  obtain ⟨t', v', ht, hv, rfl⟩ := subst_assign_parts h
  rw [subst_nameOf_of_none hx] at ht
  cases ht
  exact ⟨v', hv, rfl⟩

theorem subst_callOf_eq_ok {callee : String} {args : List Code}
    (hargs : ∀ a ∈ args, a.isNode = true) (h : subst m (callOf r callee args) = .ok c) :
    ∃ args', substAll m args = .ok args' ∧ c = callOf r callee args' := by
  rw [subst, subst, subst, substItems_eq_substAll m hargs] at h
  obtain ⟨_, hf, h⟩ := exists_of_bind_eq_ok h
  obtain ⟨_, hcs, h⟩ := exists_of_bind_eq_ok h
  obtain ⟨args', hargs', hcs⟩ := exists_of_bind_eq_ok hcs
  obtain ⟨_, -, h⟩ := exists_of_bind_eq_ok h
  cases hf
  cases hcs
  exact ⟨args', hargs', (Except.ok.inj h).symm⟩

theorem subst_bareCall_eq_ok {call : Code} (h : subst m (.bareCall r call) = .ok c) :
    ∃ call', subst m call = .ok call' ∧ c = .bareCall r call' := by
  rw [subst] at h
  obtain ⟨call', hcall, h⟩ := exists_of_bind_eq_ok h
  obtain ⟨_, -, h⟩ := exists_of_bind_eq_ok h
  exact ⟨call', hcall, (Except.ok.inj h).symm⟩

theorem subst_ret_eq_ok (h : subst m (.ret r v) = .ok c) :
    ∃ v', subst m v = .ok v' ∧ c = .ret r v' := by
  rw [subst] at h
  obtain ⟨v', hv, h⟩ := exists_of_bind_eq_ok h
  obtain ⟨_, -, h⟩ := exists_of_bind_eq_ok h
  exact ⟨v', hv, (Except.ok.inj h).symm⟩

theorem subst_block_eq_ok (hbody : ∀ c ∈ body, c.isNode = true)
    (h : subst m (.block r body) = .ok c) :
    ∃ body', substAll m body = .ok body' ∧ c = mkBlock r body' := by
  rw [subst, substItems_eq_substAll m hbody] at h
  obtain ⟨body', hbody', h⟩ := exists_of_bind_eq_ok h
  obtain ⟨_, -, h⟩ := exists_of_bind_eq_ok h
  exact ⟨body', hbody', (Except.ok.inj h).symm⟩

theorem subst_cond_eq_ok {a b : Code} (h : subst m (.cond r t a b) = .ok c) :
    ∃ t' a' b', subst m t = .ok t' ∧ subst m a = .ok a' ∧ subst m b = .ok b' ∧
      c = .cond r t' a' b' := by
  rw [subst] at h
  obtain ⟨t', ht, h⟩ := exists_of_bind_eq_ok h
  obtain ⟨a', ha, h⟩ := exists_of_bind_eq_ok h
  obtain ⟨b', hb, h⟩ := exists_of_bind_eq_ok h
  obtain ⟨_, -, h⟩ := exists_of_bind_eq_ok h
  exact ⟨t', a', b', ht, ha, hb, (Except.ok.inj h).symm⟩

end Substitution

theorem Body.flat_substAll (hm : ∀ x ∉ params, m x = none)
    (h : Body params tail body) {body' : List Code} (hbody : substAll m body = .ok body') :
    Flat body' := by
  induction h generalizing body' with
  | nil =>
    cases hbody
    exact flat_nil
  | pass _ ih =>
    obtain ⟨c, rest, hc, hrest, rfl⟩ := substAll_cons_eq_ok hbody
    obtain rfl := subst_pass_eq_ok hc
    exact .cons rfl (ih hrest)
  | assign hx _ _ ih | assignCall hx _ _ ih =>
    obtain ⟨c, rest, hc, hrest, rfl⟩ := substAll_cons_eq_ok hbody
    obtain ⟨v, -, rfl⟩ := subst_assign_eq_ok (hm _ hx) hc
    exact .cons rfl (ih hrest)
  | bareCall _ _ ih =>
    obtain ⟨c, rest, hc, hrest, rfl⟩ := substAll_cons_eq_ok hbody
    obtain ⟨call, -, rfl⟩ := subst_bareCall_eq_ok hc
    exact .cons rfl (ih hrest)
  | cond _ _ _ _ _ _ ih =>
    obtain ⟨c, rest, hc, hrest, rfl⟩ := substAll_cons_eq_ok hbody
    obtain ⟨t, a, b, -, -, -, rfl⟩ := subst_cond_eq_ok hc
    exact .cons rfl (ih hrest)
  | ret | bareRet =>
    obtain ⟨c, rest, hc, hrest, rfl⟩ := substAll_cons_eq_ok hbody
    obtain ⟨v, -, rfl⟩ := subst_ret_eq_ok hc
    cases hrest
    exact .cons rfl flat_nil

theorem Arith.bind_eq_subst {vars : String → Prop} (h : Arith vars c)
    (m : Substitution) : c.bind m .usual = c.subst m := by
  cases h <;> rfl

theorem Body.bind_eq_subst (hm : ∀ x ∉ params, m x = none)
    (h : Body params tail body) : ∀ c ∈ body, c.bind m .usual = c.subst m := by
  have hassign {r t : Option Origin} {x : String} {v : Code} {aug : Option String} (hx : x ∉ params)
      (hv : v.bind m .usual = v.subst m) :
      (Code.assign r (nameOf t x) v (ofText? aug)).bind m .usual =
        (Code.assign r (nameOf t x) v (ofText? aug)).subst m := by
    rw [subst, subst_nameOf_of_none (hm x hx), subst_ofText?, ← hv]
    rfl
  induction h with
  | nil => simp
  | pass _ ih | bareCall _ _ ih | cond _ _ _ _ _ _ ih => exact forall_mem_cons.2 ⟨rfl, ih⟩
  | assign hx hv _ ih => exact forall_mem_cons.2 ⟨hassign hx (hv.bind_eq_subst m), ih⟩
  | assignCall hx _ _ ih => exact forall_mem_cons.2 ⟨hassign hx rfl, ih⟩
  | ret | bareRet => exact forall_mem_cons.2 ⟨rfl, by simp⟩

/-! ## No locals -/

section NoLocals

variable {m : Substitution}

theorem substAll_eq_self {cs cs' : List Code}
    (hcs : ∀ c ∈ cs, ∀ c', subst m c = .ok c' → c' = c) (h : substAll m cs = .ok cs') :
    cs' = cs := by
  induction cs generalizing cs' with
  | nil => exact (Except.ok.inj h).symm
  | cons c cs ih =>
    obtain ⟨c', rest, hc, hrest, rfl⟩ := substAll_cons_eq_ok h
    rw [hcs c mem_cons_self c' hc, ih (fun d hd => hcs d (mem_cons_of_mem c hd)) hrest]

theorem Arith.subst_eq_self (hm : ∀ x, m x = none) {vars : String → Prop} {c' : Code}
    (hc : Arith vars c) (h : c.subst m = .ok c') : c' = c := by
  induction hc generalizing c' with
  | const =>
    rw [Code.subst] at h
    obtain ⟨_, hv, h⟩ := exists_of_bind_eq_ok h
    obtain ⟨_, -, h⟩ := exists_of_bind_eq_ok h
    cases hv
    exact (Except.ok.inj h).symm
  | name =>
    rw [subst_nameOf_of_none (hm _)] at h
    exact (Except.ok.inj h).symm
  | op hops ih =>
    rw [Code.subst] at h
    obtain ⟨_, ho, h⟩ := exists_of_bind_eq_ok h
    obtain ⟨_, hcs, h⟩ := exists_of_bind_eq_ok h
    obtain ⟨_, -, h⟩ := exists_of_bind_eq_ok h
    rw [Code.subst, substItems_eq_substAll m fun d hd => (hops d hd).isNode] at hcs
    obtain ⟨operands, hitems, hcs⟩ := exists_of_bind_eq_ok hcs
    cases ho
    cases hcs
    rw [substAll_eq_self (fun d hd d' => ih d hd) hitems] at h
    exact (Except.ok.inj h).symm

theorem Body.subst_eq_self (hm : ∀ x, m x = none) (h : Body params tail body) :
    ∀ c ∈ body, ∀ c', c.subst m = .ok c' → c' = c := by
  induction h with
  | nil => simp
  | pass _ ih => exact forall_mem_cons.2 ⟨fun _ => subst_pass_eq_ok, ih⟩
  | assign _ hv _ ih =>
    refine forall_mem_cons.2 ⟨fun c' hc => ?_, ih⟩
    obtain ⟨v', hv', rfl⟩ := subst_assign_eq_ok (hm _) hc
    rw [hv.subst_eq_self hm hv']
  | assignCall _ hargs _ ih =>
    refine forall_mem_cons.2 ⟨fun c' hc => ?_, ih⟩
    obtain ⟨v', hv', rfl⟩ := subst_assign_eq_ok (hm _) hc
    obtain ⟨args', hargs', rfl⟩ := subst_callOf_eq_ok (fun a ha => (hargs a ha).isNode) hv'
    rw [substAll_eq_self (fun a ha _ => (hargs a ha).subst_eq_self hm) hargs']
  | bareCall hargs _ ih =>
    refine forall_mem_cons.2 ⟨fun c' hc => ?_, ih⟩
    obtain ⟨call, hcall, rfl⟩ := subst_bareCall_eq_ok hc
    obtain ⟨args', hargs', rfl⟩ := subst_callOf_eq_ok (fun a ha => (hargs a ha).isNode) hcall
    rw [substAll_eq_self (fun a ha _ => (hargs a ha).subst_eq_self hm) hargs']
  | cond ht hthen helse _ iha ihb ih =>
    refine forall_mem_cons.2 ⟨fun c' hc => ?_, ih⟩
    obtain ⟨t', a', b', ht', ha', hb', rfl⟩ := subst_cond_eq_ok hc
    obtain ⟨as, has, rfl⟩ := subst_block_eq_ok hthen.isNode ha'
    obtain ⟨bs, hbs, rfl⟩ := subst_block_eq_ok helse.isNode hb'
    rw [ht.subst_eq_self hm ht', substAll_eq_self iha has, substAll_eq_self ihb hbs,
      hthen.flat.mkBlock, helse.flat.mkBlock]
  | ret hv =>
    refine forall_mem_cons.2 ⟨fun c' hc => ?_, by simp⟩
    obtain ⟨v', hv', rfl⟩ := subst_ret_eq_ok hc
    rw [hv.subst_eq_self hm hv']
  | bareRet =>
    refine forall_mem_cons.2 ⟨fun c' hc => ?_, by simp⟩
    obtain ⟨v', hv', rfl⟩ := subst_ret_eq_ok hc
    cases hv'
    rfl

end NoLocals

end Code

end DataDiagram
