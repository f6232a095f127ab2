import DataDiagram.Code.Inline
import DataDiagram.Proofs.Code.Body
import DataDiagram.Proofs.Datum
import Mathlib.Data.List.Forall2
import Mathlib.Data.List.Permutation
/-!
# Inlining keeps the meaning

Where arguments hold no variables, the statements that a call is replaced by do what the call does:
they leave the same variables, with the result of the call in its target.  The argument follows the
statements of the body for one call, and the depth of calls in calls for all of them.
-/

namespace DataDiagram

open List

namespace Code

variable {params : List String} {tail : Bool} {body : List Code}

/-! ## Statements that come of statements -/

variable {aug c : Code} {out defs stack : List Code} {f : Func} {inner : Caller} {b : Option Origin}
  {target : Code} {args : List Code}

theorem inlineAll_cons_eq_ok {enter : Enter} {cs : List Code}
    (h : inlineAll enter target aug (c :: cs) = .ok out) :
    ∃ first more, inlineWith enter target aug c = .ok first ∧
      inlineAll enter target aug cs = .ok more ∧ out = first ++ more := by
  rw [inlineAll] at h
  obtain ⟨first, hfirst, h⟩ := exists_of_bind_eq_ok h
  obtain ⟨more, hmore, h⟩ := exists_of_bind_eq_ok h
  exact ⟨first, more, hfirst, hmore, (Except.ok.inj h).symm⟩

/-- A body without locals is inlined as its statements are when parameters have been replaced. -/
theorem inlineBody_eq_ok {enter : Enter} {scope m : Substitution}
    (hscope : ∀ c ∈ body, ∀ c', c.subst scope = .ok c' → c' = c)
    (hbind : ∀ c ∈ body, c.bind m .usual = c.subst m)
    (h : inlineBody enter target aug scope m body = .ok out) :
    ∃ body', substAll m body = .ok body' ∧ inlineAll enter target aug body' = .ok out := by
  induction body generalizing out with
  | nil => exact ⟨[], rfl, h⟩
  | cons c body ih =>
    rw [inlineBody] at h
    obtain ⟨_, hnode, h⟩ := exists_of_bind_eq_ok h
    obtain ⟨renamed, hrenamed, h⟩ := exists_of_bind_eq_ok h
    obtain ⟨bound, hbound, h⟩ := exists_of_bind_eq_ok h
    obtain ⟨first, hfirst, h⟩ := exists_of_bind_eq_ok h
    obtain ⟨more, hmore, h⟩ := exists_of_bind_eq_ok h
    rw [hscope c mem_cons_self renamed hrenamed, hbind c mem_cons_self] at hbound
    obtain ⟨body', hbody', hmore⟩ := ih (fun d hd => hscope d (mem_cons_of_mem c hd))
      (fun d hd => hbind d (mem_cons_of_mem c hd)) hmore
    refine ⟨bound :: body', ?_, ?_⟩
    · rw [substAll, hnode, hbound, hbody']
      rfl
    · rw [inlineAll, hfirst, hmore]
      exact h

/-! ## Simulation -/

/-- `Binds I m params ρ` says that `m` replaces exactly the parameters, each one by an expression
without variables that has the value of the parameter. -/
structure Binds (I : Operators) (m : Substitution) (params : List String) (ρ : Frame) : Prop where
  outside : ∀ x ∉ params, m x = none ∧ ρ x = none
  inside : ∀ x ∈ params, ∃ a n, m x = some a ∧ Arith (fun _ => False) a ∧
    (∀ look, a.eval I look = some n) ∧ ρ x = some n

section Simulation

variable {I : Operators} {defs : List Func} {m : Substitution} {ρ : Frame}

/-- In an expression of a body, the parameters have their values and the variables keep theirs. -/
theorem Binds.renders (h : Binds I m params ρ) (s : Valuation) :
    Renders I m (fun _ => True) (ρ.look s) (fun _ => True) (Frame.empty.look s) := by
  intro x _
  by_cases hx : x ∈ params
  · obtain ⟨a, n, hm, ha, heval, hρ⟩ := h.inside x hx
    refine .inr ⟨a, hm, ha.mono fun _ => False.elim, ?_⟩
    rw [heval, Frame.look, hρ]
    rfl
  · obtain ⟨hm, hρ⟩ := h.outside x hx
    refine .inl ⟨hm, trivial, ?_⟩
    rw [Frame.look, Frame.look, hρ]
    rfl

theorem Binds.renders_params (h : Binds I m params ρ) (s : Valuation) :
    Renders I m (· ∈ params) (ρ.look s) (fun _ => False) s := by
  intro x hx
  obtain ⟨a, n, hm, ha, heval, hρ⟩ := h.inside x hx
  refine .inr ⟨a, hm, ha, ?_⟩
  rw [heval, Frame.look, hρ]
  rfl

/-- The code of a target, which is a variable if there is one. -/
abbrev targetOf (t : Option Origin) (x : Option String) : Code := ofOption (x.map (nameOf t))

/-- `Stands I defs out f args x aug` says that the statements `out` can stand for a call of `f`
whose result goes to the variable `x` by way of the operator `aug`. -/
def Stands (I : Operators) (defs : List Func) (out : List Code) (f : Func) (args : List Code)
    (x aug : Option String) : Prop :=
  ∀ s, ∃ vals result s', evalAll I s args = some vals ∧ f.Runs I defs vals s result s' ∧
    Exec I defs .empty out s .fell (I.store x aug result s')

/-- A way to enter calls is sound if what it makes of a call can stand for it. -/
def Enter.Sound (I : Operators) (defs : List Func) (enter : Enter) : Prop :=
  ∀ (callee : String) (args : List Code) (t : Option Origin) (x aug : Option String)
    (out : List Code), (∀ a ∈ args, Arith (fun _ => False) a) →
    enter (text callee) (tuple args) (targetOf t x) (ofText? aug) = .ok out →
    Flat out ∧ ∃ g, defs.find? (fun g => g.name == callee) = some g ∧ Stands I defs out g args x aug

theorem store_none (x aug : Option String) (s : Valuation) : I.store x aug none s = s := by
  cases x <;> rfl

variable {v : Code} {aug : Option String} {out : List Code} {r t : Option Origin} {target : Code}
  {vars : String → Prop} {x : Option String}

theorem inlineWith_assign_arith {enter : Enter} {aug : Code}
    (hv : Arith vars v) (r : Option Origin) (t o : Code) :
    inlineWith enter target aug (.assign r t v o) = .ok [.assign r t v o] := by
  cases hv <;> rfl

theorem inlineRet_arith_eq_ok (hv : Arith vars v)
    (h : inlineRet (targetOf t x) (ofText? aug) r v = .ok out) :
    ∃ y, x = some y ∧ out = [.assign r (nameOf t y) v (ofText? aug)] := by
  cases x with
  | none => cases hv <;> exact nomatch h
  | some y =>
    refine ⟨y, rfl, ?_⟩
    cases r with
    | none => cases hv <;> exact nomatch h
    | some o => cases hv <;> exact (Except.ok.inj h).symm

theorem inlineRet_nothing_eq_ok
    (h : inlineRet (targetOf t x) (ofText? aug) r nothing = .ok out) : x = none ∧ out = [] := by
  cases x with
  | none => exact ⟨rfl, (Except.ok.inj h).symm⟩
  | some y => exact nomatch h

theorem inlineWith_cond_eq_ok {enter : Enter} {aug t : Code} {ra rb : Option Origin}
    {a b : List Code}
    (h : inlineWith enter target aug (.cond r t (.block ra a) (.block rb b)) = .ok out) :
    ∃ outa outb, inlineAll enter target aug a = .ok outa ∧ inlineAll enter target aug b = .ok outb ∧
      out = [.cond r t (mkBlock ra outa) (mkBlock rb outb)] := by
  rw [inlineWith, inlineBranch, inlineBranch] at h
  obtain ⟨outa, ha, h⟩ := exists_of_bind_eq_ok h
  obtain ⟨blocka, hblocka, h⟩ := exists_of_bind_eq_ok h
  obtain ⟨outb, hb, h⟩ := exists_of_bind_eq_ok h
  obtain ⟨blockb, hblockb, h⟩ := exists_of_bind_eq_ok h
  obtain ⟨_, -, h⟩ := exists_of_bind_eq_ok h
  obtain ⟨_, -, hblocka⟩ := exists_of_bind_eq_ok hblocka
  obtain ⟨_, -, hblockb⟩ := exists_of_bind_eq_ok hblockb
  cases hblocka
  cases hblockb
  exact ⟨outa, outb, ha, hb, (Except.ok.inj h).symm⟩

/-- What the statements of a body become does what the body does, and stores what it returns. -/
theorem Body.simulate {enter : Enter} (henter : Enter.Sound I defs enter)
    (hm : Binds I m params ρ) (h : Body params tail body) {body' : List Code}
    (hsub : substAll m body = .ok body')
    (hin : inlineAll enter (targetOf t x) (ofText? aug) body' = .ok out) :
    Flat out ∧ ∀ s, ∃ e s', Exec I defs ρ body s e s' ∧
      Exec I defs .empty out s .fell (I.store x aug e.result s') ∧ (tail = false → e = .fell) := by
  have hnone : ∀ x ∉ params, m x = none := fun x hx => (hm.outside x hx).1
  induction h generalizing body' out with
  | nil =>
    cases hsub
    cases hin
    refine ⟨flat_nil, fun s => ⟨.fell, s, .nil, ?_, fun _ => rfl⟩⟩
    rw [Ending.result, store_none]
    exact .nil
  | pass _ ih =>
    obtain ⟨c, rest, hc, hrest, rfl⟩ := substAll_cons_eq_ok hsub
    obtain ⟨first, more, hfirst, hmore, rfl⟩ := inlineAll_cons_eq_ok hin
    obtain rfl := subst_pass_eq_ok hc
    cases hfirst
    obtain ⟨hflat, hexec⟩ := ih hrest hmore
    refine ⟨.cons rfl hflat, fun s => ?_⟩
    obtain ⟨e, s', hbody, hout, htail⟩ := hexec s
    exact ⟨e, s', .pass hbody, .pass hout, htail⟩
  | @assign tail r tr y v aug' rest hx hv _ ih =>
    obtain ⟨c, rest', hc, hrest, rfl⟩ := substAll_cons_eq_ok hsub
    obtain ⟨first, more, hfirst, hmore, rfl⟩ := inlineAll_cons_eq_ok hin
    obtain ⟨v', hv', rfl⟩ := subst_assign_eq_ok (hnone _ hx) hc
    have harith := (hv.subst (hm.renders fun _ => 0) hv').1
    rw [inlineWith_assign_arith harith] at hfirst
    cases hfirst
    obtain ⟨hflat, hexec⟩ := ih hrest hmore
    refine ⟨.cons rfl hflat, fun s => ?_⟩
    obtain ⟨n, hn⟩ := hv.exists_eval I (ρ.look s)
    have hn' := (hv.subst (hm.renders s) hv').2.trans hn
    obtain ⟨e, s', hbody, hout, htail⟩ := hexec (I.store (some y) aug' (some n) s)
    exact ⟨e, s', .assign rfl hn hbody, .assign rfl hn' hout, htail⟩
  | @assignCall tail r tr y cr callee args aug' rest hx hargs _ ih =>
    obtain ⟨c, rest', hc, hrest, rfl⟩ := substAll_cons_eq_ok hsub
    obtain ⟨first, more, hfirst, hmore, rfl⟩ := inlineAll_cons_eq_ok hin
    obtain ⟨v', hv', rfl⟩ := subst_assign_eq_ok (hnone _ hx) hc
    obtain ⟨args', hargs', rfl⟩ := subst_callOf_eq_ok (fun a ha => (hargs a ha).isNode) hv'
    have hclosed := (Arith.substAll (hm.renders_params (fun _ => 0)) hargs hargs').1
    obtain ⟨hflat₁, g, hg, hstands⟩ := henter callee args' tr (some y) aug' first hclosed hfirst
    obtain ⟨hflat, hexec⟩ := ih hrest hmore
    refine ⟨hflat₁.append hflat, fun s => ?_⟩
    obtain ⟨vals, result, s₁, hvals, ⟨b, gbody, e₁, hgbody, hlen, hrun, rfl⟩, hfirst⟩ := hstands s
    have hvals' := (Arith.substAll (hm.renders_params s) hargs hargs').2.symm.trans hvals
    obtain ⟨e, s', hbody, hout, htail⟩ := hexec (I.store (some y) aug' e₁.result s₁)
    exact ⟨e, s', .assignCall rfl hg hgbody hvals' hlen hrun hbody, hfirst.append rfl hout, htail⟩
  | @bareCall tail r cr callee args rest hargs _ ih =>
    obtain ⟨c, rest', hc, hrest, rfl⟩ := substAll_cons_eq_ok hsub
    obtain ⟨first, more, hfirst, hmore, rfl⟩ := inlineAll_cons_eq_ok hin
    obtain ⟨call, hcall, rfl⟩ := subst_bareCall_eq_ok hc
    obtain ⟨args', hargs', rfl⟩ := subst_callOf_eq_ok (fun a ha => (hargs a ha).isNode) hcall
    have hclosed := (Arith.substAll (hm.renders_params (fun _ => 0)) hargs hargs').1
    obtain ⟨hflat₁, g, hg, hstands⟩ := henter callee args' none none none first hclosed hfirst
    obtain ⟨hflat, hexec⟩ := ih hrest hmore
    refine ⟨hflat₁.append hflat, fun s => ?_⟩
    obtain ⟨vals, result, s₁, hvals, ⟨b, gbody, e₁, hgbody, hlen, hrun, rfl⟩, hfirst⟩ := hstands s
    have hvals' := (Arith.substAll (hm.renders_params s) hargs hargs').2.symm.trans hvals
    obtain ⟨e, s', hbody, hout, htail⟩ := hexec s₁
    exact ⟨e, s', .bareCall hg hgbody hvals' hlen hrun hbody, hfirst.append rfl hout, htail⟩
  | @cond tail r test ra a rb b rest ht hthen helse hnext iha ihb ih =>
    obtain ⟨c, rest', hc, hrest, rfl⟩ := substAll_cons_eq_ok hsub
    obtain ⟨first, more, hfirst, hmore, rfl⟩ := inlineAll_cons_eq_ok hin
    obtain ⟨test', a', b', ht', ha', hb', rfl⟩ := subst_cond_eq_ok hc
    obtain ⟨as, has, rfl⟩ := subst_block_eq_ok hthen.isNode ha'
    obtain ⟨bs, hbs, rfl⟩ := subst_block_eq_ok helse.isNode hb'
    rw [(hthen.flat_substAll hnone has).mkBlock, (helse.flat_substAll hnone hbs).mkBlock] at hfirst
    obtain ⟨outa, outb, houta, houtb, rfl⟩ := inlineWith_cond_eq_ok hfirst
    obtain ⟨hflata, hexeca⟩ := iha has houta
    obtain ⟨hflatb, hexecb⟩ := ihb hbs houtb
    obtain ⟨hflat, hexec⟩ := ih hrest hmore
    rw [hflata.mkBlock, hflatb.mkBlock]
    refine ⟨.cons rfl hflat, fun s => ?_⟩
    obtain ⟨n, hn⟩ := ht.exists_eval I (ρ.look s)
    have hn' := (ht.subst (hm.renders s) ht').2.trans hn
    obtain ⟨e₁, s₁, hbranch, hbranch', htail₁⟩ : ∃ e₁ s₁,
        Exec I defs ρ (if n = 0 then b else a) s e₁ s₁ ∧
        Exec I defs .empty (if n = 0 then outb else outa) s .fell (I.store x aug e₁.result s₁) ∧
        ((tail && rest.isEmpty) = false → e₁ = .fell) := by
      split
      · exact hexecb s
      · exact hexeca s
    cases e₁ with
    | fell =>
      rw [Ending.result, store_none] at hbranch'
      obtain ⟨e, s', hbody, hout, htail⟩ := hexec s₁
      exact ⟨e, s', .condFell hn hbranch hbody, .condFell hn' hbranch' hout, htail⟩
    | returned result =>
      -- The choice returns, so nothing follows it.
      have hlast : (tail && rest.isEmpty) = true := by
        cases hflag : tail && rest.isEmpty with
        | true => rfl
        | false => exact nomatch htail₁ hflag
      rw [Bool.and_eq_true, List.isEmpty_iff] at hlast
      obtain ⟨rfl, rfl⟩ := hlast
      cases hrest
      cases hmore
      exact ⟨.returned result, s₁, .condReturned hn hbranch, .condFell hn' hbranch' .nil,
        fun h => nomatch h⟩
  | @ret r v hv =>
    obtain ⟨c, rest', hc, hrest, rfl⟩ := substAll_cons_eq_ok hsub
    obtain ⟨first, more, hfirst, hmore, rfl⟩ := inlineAll_cons_eq_ok hin
    cases hrest
    cases hmore
    obtain ⟨v', hv', rfl⟩ := subst_ret_eq_ok hc
    have harith := (hv.subst (hm.renders fun _ => 0) hv').1
    obtain ⟨y, rfl, rfl⟩ := inlineRet_arith_eq_ok harith hfirst
    refine ⟨.cons rfl flat_nil, fun s => ?_⟩
    obtain ⟨n, hn⟩ := hv.exists_eval I (ρ.look s)
    have hn' := (hv.subst (hm.renders s) hv').2.trans hn
    exact ⟨.returned (some n), s, .ret hn, .assign rfl hn' .nil, fun h => nomatch h⟩
  | @bareRet r =>
    obtain ⟨c, rest', hc, hrest, rfl⟩ := substAll_cons_eq_ok hsub
    obtain ⟨first, more, hfirst, hmore, rfl⟩ := inlineAll_cons_eq_ok hin
    cases hrest
    cases hmore
    obtain ⟨v', hv', rfl⟩ := subst_ret_eq_ok hc
    cases hv'
    obtain ⟨rfl, rfl⟩ := inlineRet_nothing_eq_ok hfirst
    exact ⟨flat_nil, fun s => ⟨.returned none, s, .bareRet, .nil, fun h => nomatch h⟩⟩

end Simulation

/-! ## Arguments -/

/-- `HasValue I a n` says that the expression `a` holds no variables and has the value `n`. -/
def HasValue (I : Operators) (a : Code) (n : Int) : Prop :=
  Arith (fun _ => False) a ∧ ∀ look, a.eval I look = some n

section Arguments

variable {I : Operators} {vals : List Int} {args : List Code} {x : String}

theorem evalAll_of_forall₂ (h : List.Forall₂ (HasValue I) args vals) (look : String → Int) :
    evalAll I look args = some vals := by
  induction h with
  | nil => rfl
  | cons ha _ ih =>
    rw [evalAll, ha.2, ih]
    rfl

theorem exists_forall₂_hasValue (h : ∀ a ∈ args, ∃ n, HasValue I a n) :
    ∃ vals, List.Forall₂ (HasValue I) args vals := by
  induction args with
  | nil => exact ⟨[], .nil⟩
  | cons a args ih =>
    obtain ⟨n, hn⟩ := h a mem_cons_self
    obtain ⟨vals, hvals⟩ := ih fun b hb => h b (mem_cons_of_mem a hb)
    exact ⟨n :: vals, .cons hn hvals⟩

theorem Arith.exists_hasValue (I : Operators) {a : Code} (h : Arith (fun _ => False) a) :
    ∃ n, HasValue I a n := by
  induction h with
  | const hd => exact ⟨_, .const hd, fun _ => hd⟩
  | name hx => exact hx.elim
  | @op r symbol operands hops ih =>
    obtain ⟨vals, hvals⟩ := exists_forall₂_hasValue ih
    refine ⟨I symbol vals, .op hops, fun look => ?_⟩
    rw [eval, evalAll_of_forall₂ hvals]
    rfl

/-- Where parameters differ, the last argument of a parameter is its only one. -/
theorem find?_reverse_eq_lookup {entries : List (String × Code)}
    (hentries : (entries.map Prod.fst).Nodup) (x : String) :
    (entries.reverse.find? fun e => e.1 == x).map Prod.snd = entries.lookup x := by
  induction entries with
  | nil => rfl
  | cons e entries ih =>
    rw [map_cons, nodup_cons] at hentries
    rw [reverse_cons, List.find?_append, lookup_cons]
    by_cases hx : e.1 = x
    · have hnone : entries.reverse.find? (fun e => e.1 == x) = none := by
        rw [List.find?_eq_none]
        intro d hd hdx
        rw [beq_iff_eq] at hdx
        exact hentries.1 (hx ▸ hdx ▸ mem_map_of_mem (mem_reverse.1 hd))
      simp [hnone, hx]
    · simp [hx, ← ih hentries.2, beq_eq_false_iff_ne.2 (Ne.symm hx)]

theorem ofArguments_apply (hparams : params.Nodup) (hlen : args.length = params.length)
    (x : String) :
    Substitution.ofArguments (params.map text) args x = (params.zip args).lookup x := by
  have hentries : Substitution.ofArguments (params.map text) args = .ofList (params.zip args) := by
    rw [Substitution.ofArguments, zip_map_left, filterMap_map]
    exact congrArg Substitution.ofList filterMap_some
  have hkeys : (params.zip args).map Prod.fst = params :=
    map_fst_zip (Nat.le_of_eq hlen.symm)
  rw [hentries, Substitution.ofList]
  exact find?_reverse_eq_lookup (hkeys.symm ▸ hparams) x

theorem lookup_zip_of_notMem {α : Type} (hx : x ∉ params)
    (vals : List α) : (params.zip vals).lookup x = none := by
  induction params generalizing vals with
  | nil => rfl
  | cons p params ih =>
    rw [mem_cons, not_or] at hx
    cases vals with
    | nil => rfl
    | cons v vals =>
      rw [zip_cons_cons, lookup_cons, beq_eq_false_iff_ne.2 hx.1]
      exact ih hx.2 vals

theorem exists_lookup_zip (hx : x ∈ params) (hvals : List.Forall₂ (HasValue I) args vals)
    (hlen : args.length = params.length) :
    ∃ a n, (params.zip args).lookup x = some a ∧ HasValue I a n ∧
      (params.zip vals).lookup x = some n := by
  induction params generalizing args vals with
  | nil => exact absurd hx not_mem_nil
  | cons p params ih =>
    cases hvals with
    | nil => simp at hlen
    | @cons a n args vals ha hvals =>
      rw [zip_cons_cons, zip_cons_cons, lookup_cons, lookup_cons]
      cases hp : x == p with
      | true => exact ⟨a, n, rfl, ha, rfl⟩
      | false =>
        have hmem : x ∈ params := (mem_cons.1 hx).resolve_left (beq_eq_false_iff_ne.1 hp)
        exact ih hmem hvals (Nat.succ.inj hlen)

theorem binds_ofArguments (hparams : params.Nodup) (hvals : List.Forall₂ (HasValue I) args vals)
    (hlen : args.length = params.length) :
    Binds I (.ofArguments (params.map text) args) params (.ofValues params vals) where
  outside x hx := by
    rw [ofArguments_apply hparams hlen]
    exact ⟨lookup_zip_of_notMem hx args, lookup_zip_of_notMem hx vals⟩
  inside x hx := by
    rw [ofArguments_apply hparams hlen]
    obtain ⟨a, n, ha, hvalue, hn⟩ := exists_lookup_zip hx hvals hlen
    exact ⟨a, n, ha, hvalue.1, hvalue.2, hn⟩

end Arguments

/-! ## Calls -/

theorem find?_map_code (defs : List Func) (callee : String) :
    find? (defs.map Func.code) (text callee) =
      (defs.find? fun g => g.name == callee).map Func.code := by
  have hsame (g : Func) : (text g.name).same (text callee) = (g.name == callee) := by
    rw [same, Datum.same_str]
  rw [find?, List.find?_map]
  exact congrArg (Option.map Func.code) (congrArg (fun p => defs.find? p) (funext hsame))

theorem any_same_iff {stack : List String} {f : String} :
    (stack.map text).any (text f).same = true ↔ f ∈ stack := by
  rw [any_map, any_eq_true]
  constructor
  · rintro ⟨x, hx, hsame⟩
    rw [Function.comp_apply, same, Datum.same_str, beq_iff_eq] at hsame
    exact hsame ▸ hx
  · intro hf
    exact ⟨f, hf, by rw [Function.comp_apply, same, Datum.same_str, beq_self_eq_true]⟩

theorem checkArity_eq_ok_iff {f : Code} {u : Unit} :
    checkArity f (ofTexts params) (tuple args) = .ok u ↔ args.length = params.length := by
  constructor
  · intro h
    obtain ⟨given, hgiven, h₁⟩ := bind_eq_ok_iff.1 h
    obtain ⟨expected, hexpected, h₂⟩ := bind_eq_ok_iff.1 h₁
    cases hgiven
    cases hexpected
    split at h₂
    · next heq => simpa using heq
    · exact nomatch h₂
  · intro h
    have hlen : (params.map text).length = args.length := by rw [length_map, h]
    refine bind_eq_ok_iff.2 ⟨args.length, rfl, bind_eq_ok_iff.2 ⟨args.length, congrArg _ hlen, ?_⟩⟩
    rw [if_pos (beq_self_eq_true _)]
    rfl

/-- What the statements of a call are made of. -/
theorem callOnce_eq_ok_iff {args : Code} :
    callOnce defs inner f.code args target aug stack = .ok out ↔
      checkArity f.code (ofTexts f.args) args = .ok () ∧ stack.any (text f.name).same = false ∧
      ∃ arguments scope body stmts, args.items = .ok arguments ∧
        scopeEntries (text f.name) (f.locals.map Var.code) = .ok scope ∧
        f.body.normalReturns = .ok body ∧ body.items = .ok stmts ∧
        inlineBody (entering defs inner (stack ++ [text f.name])) target aug (.ofList scope)
          (.ofArguments (f.args.map text) arguments) stmts = .ok out := by
  rw [Func.code, callOnce]
  cases stack.any (text f.name).same with
  | true =>
    refine ⟨fun h => ?_, fun h => nomatch h.2.1⟩
    obtain ⟨_, -, hthrow⟩ := bind_eq_ok_iff.1 h
    exact nomatch hthrow
  | false =>
    constructor
    · intro h
      obtain ⟨_, harity, h₁⟩ := bind_eq_ok_iff.1 h
      obtain ⟨parameters, hparameters, h₂⟩ := bind_eq_ok_iff.1 h₁
      obtain ⟨arguments, harguments, h₃⟩ := bind_eq_ok_iff.1 h₂
      obtain ⟨locals, hlocals, h₄⟩ := bind_eq_ok_iff.1 h₃
      obtain ⟨scope, hscope, h₅⟩ := bind_eq_ok_iff.1 h₄
      obtain ⟨body, hbody, h₆⟩ := bind_eq_ok_iff.1 h₅
      obtain ⟨stmts, hstmts, h₇⟩ := bind_eq_ok_iff.1 h₆
      cases hparameters
      cases hlocals
      exact ⟨harity, rfl, arguments, scope, body, stmts, harguments, hscope, hbody, hstmts, h₇⟩
    · rintro ⟨harity, -, arguments, scope, body, stmts, harguments, hscope, hbody, hstmts, h⟩
      refine bind_eq_ok_iff.2 ⟨(), harity, ?_⟩
      refine bind_eq_ok_iff.2 ⟨f.args.map text, rfl, bind_eq_ok_iff.2 ⟨arguments, harguments, ?_⟩⟩
      refine bind_eq_ok_iff.2 ⟨f.locals.map Var.code, rfl, bind_eq_ok_iff.2 ⟨scope, hscope, ?_⟩⟩
      exact bind_eq_ok_iff.2 ⟨body, hbody, bind_eq_ok_iff.2 ⟨stmts, hstmts, h⟩⟩

theorem callOnce_tuple_eq_ok_iff :
    callOnce defs inner f.code (tuple args) target aug stack = .ok out ↔
      args.length = f.args.length ∧ stack.any (text f.name).same = false ∧ ∃ scope body stmts,
        scopeEntries (text f.name) (f.locals.map Var.code) = .ok scope ∧
        f.body.normalReturns = .ok body ∧ body.items = .ok stmts ∧
        inlineBody (entering defs inner (stack ++ [text f.name])) target aug (.ofList scope)
          (.ofArguments (f.args.map text) args) stmts = .ok out := by
  rw [callOnce_eq_ok_iff, checkArity_eq_ok_iff]
  refine and_congr_right fun _ => and_congr_right fun _ => ⟨?_, fun h => ⟨args, ?_⟩⟩
  · rintro ⟨_, scope, body, stmts, ⟨⟩, h⟩
    exact ⟨scope, body, stmts, h⟩
  · obtain ⟨scope, body, stmts, h⟩ := h
    exact ⟨scope, body, stmts, rfl, h⟩

theorem normalReturns_items_eq_ok {stmts : List Code}
    (hc : normalReturns (.block b body) = .ok c) (hstmts : c.items = .ok stmts) :
    ∃ items, normalItems body = .ok items ∧ stmts = flattenAll items := by
  rw [normalReturns] at hc
  obtain ⟨items, hitems, hblock⟩ := exists_of_bind_eq_ok hc
  obtain ⟨_, -, hmk⟩ := exists_of_bind_eq_ok hblock
  cases hmk
  exact ⟨items, hitems, (Except.ok.inj hstmts).symm⟩

theorem callOnce_eq_ok (hlocals : f.locals = []) (hbody : f.body = .block b body)
    (h : callOnce defs inner f.code (tuple args) target aug stack = .ok out) :
    args.length = f.args.length ∧ ∃ items, normalItems body = .ok items ∧
      inlineBody (entering defs inner (stack ++ [text f.name])) target aug (.ofList [])
        (.ofArguments (f.args.map text) args) (flattenAll items) = .ok out := by
  obtain ⟨harity, -, scope, normal, stmts, hscope, hnormal, hstmts, hout⟩ :=
    callOnce_tuple_eq_ok_iff.1 h
  rw [hlocals] at hscope
  cases hscope
  rw [hbody] at hnormal
  obtain ⟨items, hitems, rfl⟩ := normalReturns_items_eq_ok hnormal hstmts
  exact ⟨harity, items, hitems, hout⟩

end Code

/-- A function on integers without locals, whose parameters differ. -/
structure Func.Plain (f : Func) : Prop where
  distinct : f.args.Nodup
  noLocals : f.locals = []
  body : ∃ b stmts, f.body = .block b stmts ∧ Code.Body f.args true stmts

namespace Code

variable {I : Operators} {defs : List Func}

/-- What is inlined for a call can stand for it, however deep calls are nested in it. -/
theorem callAt_stands (hdefs : ∀ g ∈ defs, g.Plain) {depth : Nat} {f : Func} (hf : f.Plain)
    {args : List Code} (hargs : ∀ a ∈ args, Arith (fun _ => False) a) {t : Option Origin}
    {x aug : Option String} {stack out : List Code}
    (h : callAt (defs.map Func.code) tooDeep depth f.code (tuple args) (targetOf t x)
      (ofText? aug) stack =
      .ok out) : Flat out ∧ Stands I defs out f args x aug := by
  induction depth generalizing f args t x aug stack out with
  | zero => exact nomatch h
  | succ depth ih =>
    obtain ⟨b, body, hbody, hplain⟩ := hf.body
    obtain ⟨hlen, items, hitems, h⟩ := callOnce_eq_ok hf.noLocals hbody h
    rw [hplain.normalItems hitems, hplain.flat.flattenAll] at h
    obtain ⟨vals, hvals⟩ :=
      exists_forall₂_hasValue fun a ha => (hargs a ha).exists_hasValue I
    have hbinds := binds_ofArguments hf.distinct hvals hlen
    obtain ⟨body', hsub, hin⟩ := inlineBody_eq_ok (hplain.subst_eq_self fun _ => rfl)
      (hplain.bind_eq_subst fun x hx => (hbinds.outside x hx).1) h
    have henter : Enter.Sound I defs (entering (defs.map Func.code)
        (callAt (defs.map Func.code) tooDeep depth) (stack ++ [text f.name])) := by
      intro callee args t x aug out hargs hout
      rw [entering, find?_map_code] at hout
      cases hg : defs.find? (fun g => g.name == callee) with
      | none =>
        rw [hg] at hout
        obtain ⟨_, -, hout⟩ := exists_of_bind_eq_ok hout
        exact nomatch hout
      | some g =>
        rw [hg] at hout
        obtain ⟨hflat, hstands⟩ := ih (hdefs g (mem_of_find?_eq_some hg)) hargs hout
        exact ⟨hflat, g, rfl, hstands⟩
    obtain ⟨hflat, hexec⟩ := hplain.simulate henter hbinds hsub hin
    refine ⟨hflat, fun s => ?_⟩
    obtain ⟨e, s', hrun, hout, -⟩ := hexec s
    have hcount : vals.length = f.args.length := hvals.length_eq.symm.trans hlen
    exact ⟨vals, e.result, s', evalAll_of_forall₂ hvals s, ⟨b, body, e, hbody, hcount, hrun, rfl⟩,
      hout⟩

end Code

/-- Calling a function whose arguments hold no variables ends in one way, and executing the
statements that the call is replaced by ends in the same way: with the variables that the call
leaves, its result stored in the target. -/
theorem Func.exec_call (I : Operators) {defs : List Func} (hdefs : ∀ g ∈ defs, g.Plain) {f : Func}
    (hf : f ∈ defs) {args : List Code} (hargs : ∀ a ∈ args, Code.Arith (fun _ => False) a)
    (t : Option Origin) (x aug : Option String) {out : List Code}
    (h : f.call defs args (x.map (Code.nameOf t)) aug [] = .ok out) (s : Valuation) :
    ∃ vals result s', Code.evalAll I s args = some vals ∧
      (∀ r₂ s₂, f.Runs I defs vals s r₂ s₂ ↔ r₂ = result ∧ s₂ = s') ∧
      ∀ e s₂, Code.Exec I defs .empty out s e s₂ ↔ e = .fell ∧ s₂ = I.store x aug result s' := by
  obtain ⟨vals, result, s', hvals, hruns, hexec⟩ :=
    (Code.callAt_stands hdefs (hdefs f hf) hargs h).2 s
  refine ⟨vals, result, s', hvals, fun r₂ s₂ => ⟨fun hruns₂ => hruns₂.unique hruns, ?_⟩,
    fun e s₂ => ⟨fun hexec₂ => hexec₂.unique hexec, ?_⟩⟩
  · rintro ⟨rfl, rfl⟩
    exact hruns
  · rintro ⟨rfl, rfl⟩
    exact hexec

section Sample

open Code

def sampleOrigin : Option Origin := some ⟨"", [], none⟩

/-- Adds the result of a call to `x`, and returns `x`. -/
def sampleOuter : Func :=
  let o := sampleOrigin
  ⟨o, "f", ["n"], .block o [
    .assign o (nameOf o "x") (callOf o "g" [nameOf o "n"]) (ofText? (some "+")),
    .ret o (nameOf o "x")], [], []⟩

/-- Returns one of two values; its parameter has the name of a variable that the caller assigns. -/
def sampleInner : Func :=
  let o := sampleOrigin
  ⟨o, "g", ["x"], .block o [
    .cond o (nameOf o "x")
      (.block o [.ret o (opOf o "+" [nameOf o "x", nameOf o "y"])])
      (.block o [.ret o (constOf o (.int 0))])], [], []⟩

theorem sample_plain : ∀ g ∈ [sampleOuter, sampleInner], g.Plain := by
  have houter : sampleOuter.Plain :=
    ⟨by decide, rfl, _, _, rfl, .assignCall (by decide)
      (forall_mem_singleton.2 (.name mem_cons_self)) (.ret (.name trivial))⟩
  have hinner : sampleInner.Plain :=
    ⟨by decide, rfl, _, _, rfl, .cond (.name trivial)
      (.ret (.op (forall_mem_cons.2 ⟨.name trivial, forall_mem_singleton.2 (.name trivial)⟩)))
      (.ret (.const rfl)) .nil⟩
  exact forall_mem_cons.2 ⟨houter, forall_mem_singleton.2 hinner⟩

/-- A call inside a call, with an operator at either. -/
theorem Func.exec_call_nested : ∃ out,
    sampleOuter.call [sampleOuter, sampleInner] [constOf none (.int 3)]
      ((some "y").map (nameOf none)) (some "-") [] = .ok out ∧
    ∀ (I : Operators) (s : Valuation), ∃ vals result s',
      evalAll I s [constOf none (.int 3)] = some vals ∧
      (∀ r₂ s₂, sampleOuter.Runs I [sampleOuter, sampleInner] vals s r₂ s₂ ↔
        r₂ = result ∧ s₂ = s') ∧
      ∀ e s₂, Exec I [sampleOuter, sampleInner] .empty out s e s₂ ↔
        e = .fell ∧ s₂ = I.store (some "y") (some "-") result s' := by
  have hcall : sampleOuter.call [sampleOuter, sampleInner] [constOf none (.int 3)]
      ((some "y").map (nameOf none)) (some "-") [] =
        .ok [.cond sampleOrigin (constOf none (.int 3))
          (.block sampleOrigin [.assign sampleOrigin (nameOf sampleOrigin "x")
            (opOf sampleOrigin "+" [constOf none (.int 3), nameOf sampleOrigin "y"]) (text "+")])
          (.block sampleOrigin [.assign sampleOrigin (nameOf sampleOrigin "x")
            (constOf sampleOrigin (.int 0)) (text "+")]),
          .assign sampleOrigin (nameOf none "y") (nameOf sampleOrigin "x") (text "-")] := by
    cbv
  have hargs : ∀ a ∈ [constOf none (.int 3)], Arith (fun _ => False) a :=
    forall_mem_singleton.2 (.const rfl)
  exact ⟨_, hcall, fun I => Func.exec_call I sample_plain mem_cons_self hargs none (some "y")
    (some "-") hcall⟩

end Sample

end DataDiagram
