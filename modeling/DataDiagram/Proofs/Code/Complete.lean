import DataDiagram.Module.Calls
import DataDiagram.Module.NameCheck
import DataDiagram.Proofs.Code.Shape
import DataDiagram.Proofs.Code.Straight
/-!
# What is left of calls

The statements that a call is replaced by hold no call and no return, if the calls in the functions
that can be reached are whole values or whole statements and have no calls in their arguments.
Following the calls of a function refuses those under operators.  It accepts a call that is
returned, tested or used as an index, and it does not look at arguments; inlining leaves such calls
where they are.
-/

namespace DataDiagram

open List

namespace Code

mutual

/-- Whether no call and no return stands anywhere in the code. -/
def inlined : Code → Bool
  | datum _ | pass _ | bare _ _ => true
  | call .. | bareCall .. | ret .. => false
  | tuple items => inlinedAll items
  | block _ body => inlinedAll body
  | const _ v | name _ v => v.inlined
  | op _ v w | attr _ v w | item _ v w => v.inlined && w.inlined
  | assign _ u v w | cond _ u v w | cls _ u v w => u.inlined && v.inlined && w.inlined
  | var _ n t s i => n.inlined && t.inlined && s.inlined && i.inlined
  | func _ n as b gs ls => n.inlined && as.inlined && b.inlined && gs.inlined && ls.inlined

/-- Whether no call and no return stands anywhere in some pieces of code. -/
def inlinedAll : List Code → Bool
  | [] => true
  | c :: rest => c.inlined && inlinedAll rest

end

theorem inlinedAll_iff {cs : List Code} : inlinedAll cs = true ↔ ∀ c ∈ cs, c.inlined = true := by
  induction cs with
  | nil => simp [inlinedAll]
  | cons c cs ih => rw [inlinedAll, Bool.and_eq_true, ih, forall_mem_cons]

theorem inlined_ofText? (o : Option String) : (ofText? o).inlined = true := by
  cases o <;> rfl

theorem CallFree.inlined {c : Code} (h : CallFree c) : c.inlined = true := by
  induction h with
  | const | name => rfl
  | op _ ih =>
    rw [Code.inlined, Code.inlined, Code.inlined, inlinedAll_iff.2 ih]
    rfl
  | attr _ ih => rw [Code.inlined, Code.inlined, ih, Bool.and_self]
  | item _ _ ihv ihi => rw [Code.inlined, ihv, ihi, Bool.and_self]

/-! ## Following calls -/

section Reached

variable {calls : Bool} {follow : Follow} {stack : List String} {names all : List Datum} {c : Code}
  {cs : List Code}

attribute [local simp] reached reachedAll inlined inlinedAll

theorem reached_of_mem (h : reachedAll follow stack cs = .ok names) (hc : c ∈ cs) :
    ∃ own, reached follow stack c = .ok own ∧ own ⊆ names := by
  induction cs generalizing names with
  | nil => exact absurd hc not_mem_nil
  | cons d cs ih =>
    rw [reachedAll] at h
    obtain ⟨first, hfirst, h₁⟩ := bind_eq_ok_iff.1 h
    obtain ⟨more, hmore, h₂⟩ := bind_eq_ok_iff.1 h₁
    cases h₂
    rcases mem_cons.1 hc with rfl | hc
    · exact ⟨first, hfirst, subset_append_left first more⟩
    · obtain ⟨own, hown, hsub⟩ := ih hmore hc
      exact ⟨own, hown, List.Subset.trans hsub (subset_append_right first more)⟩

/-- An expression whose calls are refused has none. -/
theorem Expression.callFree (h : Expression calls c) (hrefuse : calls = true → follow = refuseCall)
    (hr : reached follow stack c = .ok names) : CallFree c := by
  induction h generalizing follow names with
  | const => exact .const
  | name => exact .name
  | op _ ih =>
    -- Calls under an operator are refused, whatever is done with the others.
    rw [reached, reached] at hr
    obtain ⟨_, -, h₁⟩ := bind_eq_ok_iff.1 hr
    obtain ⟨_, hoperands, -⟩ := bind_eq_ok_iff.1 h₁
    refine .op fun d hd => ?_
    obtain ⟨_, hown, -⟩ := reached_of_mem hoperands hd
    exact ih d hd (fun _ => rfl) hown
  | attr _ ih =>
    rw [reached] at hr
    obtain ⟨_, hv, -⟩ := bind_eq_ok_iff.1 hr
    exact .attr (ih hrefuse hv)
  | item _ _ ihv ihi =>
    rw [reached] at hr
    obtain ⟨_, hv, h₁⟩ := bind_eq_ok_iff.1 hr
    obtain ⟨_, hi, -⟩ := bind_eq_ok_iff.1 h₁
    exact .item (ihv hrefuse hv) (ihi hrefuse hi)
  | call =>
    rw [reached, hrefuse rfl] at hr
    exact nomatch hr

/-- A statement whose calls are whole values or whole statements, without calls in their arguments;
calls under operators aside. -/
abbrev Direct (c : Code) : Prop :=
  Statement (Expression false) (Expression false) (CallOf (fun _ => True) CallFree) c

/-- A function that has been followed to some of the given names. -/
def Followed (follow : Follow) (all : List Datum) (f : String) : Prop :=
  ∃ stack c names, follow stack c (text f) = .ok names ∧ names ⊆ all

/-- A statement that can be inlined completely if its calls, of functions that satisfy `P`, can. -/
abbrev Ready (P : String → Prop) (c : Code) : Prop :=
  Statement CallFree CallFree (CallOf P CallFree) c

theorem CallOf.followed (h : CallOf (fun _ => True) CallFree c)
    (hr : reached follow stack c = .ok names) (hnames : names ⊆ all) :
    CallOf (Followed follow all) CallFree c := by
  obtain ⟨r, f, args, rfl, -, hargs⟩ := h
  exact ⟨r, f, args, rfl, ⟨stack, _, names, hr, hnames⟩, hargs⟩

/-- A statement whose calls have been followed is ready. -/
theorem Direct.ready (h : Direct c) (hr : reached follow stack c = .ok names)
    (hnames : names ⊆ all) : Ready (Followed follow all) c := by
  have hvalue {v : Code} {own : List Datum} (hv : Expression false v)
      (hown : reached follow stack v = .ok own) : CallFree v := hv.callFree nofun hown
  induction h generalizing names with
  | pass => exact .pass
  | assign ht hv =>
    rw [reached] at hr
    obtain ⟨first, hfirst, h₁⟩ := bind_eq_ok_iff.1 hr
    obtain ⟨second, hsecond, -⟩ := bind_eq_ok_iff.1 h₁
    exact .assign (hvalue ht hfirst) (hvalue hv hsecond)
  | assignCall ht hc =>
    rw [reached] at hr
    obtain ⟨first, hfirst, h₁⟩ := bind_eq_ok_iff.1 hr
    obtain ⟨second, hsecond, h₂⟩ := bind_eq_ok_iff.1 h₁
    obtain ⟨third, -, h₃⟩ := bind_eq_ok_iff.1 h₂
    cases h₃
    refine .assignCall (hvalue ht hfirst) (hc.followed hsecond fun f hf => hnames ?_)
    simp [hf]
  | cond ht _ _ iha ihb =>
    rw [reached, reached, reached] at hr
    obtain ⟨first, hfirst, h₁⟩ := bind_eq_ok_iff.1 hr
    obtain ⟨second, hsecond, h₂⟩ := bind_eq_ok_iff.1 h₁
    obtain ⟨third, hthird, h₃⟩ := bind_eq_ok_iff.1 h₂
    cases h₃
    refine .cond (hvalue ht hfirst) (fun d hd => ?_) (fun d hd => ?_)
    · obtain ⟨own, hown, hsub⟩ := reached_of_mem hsecond hd
      exact iha d hd hown fun f hf => hnames (by simp [hsub hf])
    · obtain ⟨own, hown, hsub⟩ := reached_of_mem hthird hd
      exact ihb d hd hown fun f hf => hnames (by simp [hsub hf])
  | ret hv =>
    rw [reached] at hr
    exact .ret (hvalue hv hr)
  | bareRet => exact .bareRet
  | bareCall hc =>
    rw [reached] at hr
    exact .bareCall (hc.followed hr hnames)

end Reached

end Code

/-! ## Replacing names -/

namespace Substitution

/-- Names are replaced by expressions without calls. -/
def IsCallFree (m : Substitution) : Prop := ∀ x a, m x = some a → Code.CallFree a

theorem Renames.isCallFree {m : Substitution} {ρ : String → String} (h : m.Renames ρ) :
    m.IsCallFree := by
  intro x a ha
  rcases h x with ⟨hnone, -⟩ | ⟨r, hsome⟩
  · exact nomatch hnone.symm.trans ha
  · cases hsome.symm.trans ha
    exact .name

end Substitution

namespace Code

variable {m : Substitution} {P : String → Prop} {c c' : Code} {r : Option Origin}

theorem CallFree.substName (hm : m.IsCallFree) {x : String}
    (hc : substName m r (text x) = .ok c') : CallFree c' := by
  rw [Code.substName] at hc
  cases hx : m x with
  | none =>
    simp only [hx] at hc
    cases hc
    exact .name
  | some a =>
    have ha := hm x a hx
    simp only [hx, ha.replaceName] at hc
    cases hc
    exact ha

theorem CallFree.subst (hm : m.IsCallFree) (h : CallFree c) (hc : c.subst m = .ok c') :
    CallFree c' := by
  induction h generalizing c' with
  | const =>
    rw [Code.subst] at hc
    obtain ⟨_, hv, h₁⟩ := bind_eq_ok_iff.1 hc
    obtain ⟨_, -, h₂⟩ := bind_eq_ok_iff.1 h₁
    cases hv
    cases h₂
    exact .const
  | name => exact CallFree.substName hm hc
  | op hops ih =>
    rw [Code.subst, Code.subst, Code.subst,
      substItems_eq_substAll m fun d hd => (hops d hd).isNode] at hc
    obtain ⟨_, ho, h₁⟩ := bind_eq_ok_iff.1 hc
    obtain ⟨_, hcs, h₂⟩ := bind_eq_ok_iff.1 h₁
    obtain ⟨_, -, h₃⟩ := bind_eq_ok_iff.1 h₂
    obtain ⟨operands, hoperands, h₄⟩ := bind_eq_ok_iff.1 hcs
    cases ho
    cases h₄
    cases h₃
    exact .op (Statement.substAll_eq_ok (fun d hd _ hd' => ih d hd hd') hoperands)
  | attr _ ih =>
    rw [Code.subst] at hc
    obtain ⟨v, hv, h₁⟩ := bind_eq_ok_iff.1 hc
    obtain ⟨_, hfield, h₂⟩ := bind_eq_ok_iff.1 h₁
    obtain ⟨_, -, h₃⟩ := bind_eq_ok_iff.1 h₂
    cases hfield
    cases h₃
    exact .attr (ih hv)
  | item _ _ ihv ihi =>
    rw [Code.subst] at hc
    obtain ⟨v, hv, h₁⟩ := bind_eq_ok_iff.1 hc
    obtain ⟨i, hi, h₂⟩ := bind_eq_ok_iff.1 h₁
    obtain ⟨_, -, h₃⟩ := bind_eq_ok_iff.1 h₂
    cases h₃
    exact .item (ihv hv) (ihi hi)

theorem CallFree.bind (hm : m.IsCallFree) (h : CallFree c) {mode : BindMode}
    (hc : c.bind m mode = .ok c') : CallFree c' := by
  induction h generalizing c' mode with
  | const =>
    cases mode with
    | usual => exact CallFree.const.subst hm hc
    | target | value => exact nomatch hc
  | op hops =>
    cases mode with
    | usual => exact (CallFree.op hops).subst hm hc
    | target | value => exact nomatch hc
  | name =>
    cases mode with
    | target =>
      cases hc
      exact .name
    | usual | value => exact CallFree.substName hm hc
  | attr _ ih =>
    rw [Code.bind] at hc
    obtain ⟨v, hv', h₁⟩ := bind_eq_ok_iff.1 hc
    obtain ⟨_, -, h₂⟩ := bind_eq_ok_iff.1 h₁
    cases h₂
    exact .attr (ih hv')
  | item _ _ ihv ihi =>
    rw [Code.bind] at hc
    obtain ⟨v, hv', h₁⟩ := bind_eq_ok_iff.1 hc
    obtain ⟨i, hi', h₂⟩ := bind_eq_ok_iff.1 h₁
    obtain ⟨_, -, h₃⟩ := bind_eq_ok_iff.1 h₂
    cases h₃
    exact .item (ihv hv') (ihi hi')

theorem CallOf.subst (hm : m.IsCallFree) (h : CallOf P CallFree c) (hc : c.subst m = .ok c') :
    CallOf P CallFree c' := by
  obtain ⟨r, f, args, rfl, hf, hargs⟩ := h
  obtain ⟨args', hargs', rfl⟩ := subst_callOf_eq_ok (fun a ha => (hargs a ha).isNode) hc
  exact ⟨r, f, args', rfl, hf,
    Statement.substAll_eq_ok (fun a ha _ ha' => (hargs a ha).subst hm ha') hargs'⟩

theorem Ready.subst (hm : m.IsCallFree) (h : Ready P c) (hc : c.subst m = .ok c') : Ready P c' :=
  Statement.subst (fun _ _ h => h.subst hm) (fun _ _ h => h.subst hm) (fun _ _ h => h.subst hm) h hc

theorem Ready.bind (hm : m.IsCallFree) (h : Ready P c) (hc : c.bind m .usual = .ok c') :
    Ready P c' := by
  have hsubst : c.subst m = .ok c' → Ready P c' := Ready.subst hm h
  cases h with
  | pass | cond | ret | bareRet | bareCall => exact hsubst hc
  | assign ht hv =>
    rw [Code.bind] at hc
    obtain ⟨t, ht', h₁⟩ := bind_eq_ok_iff.1 hc
    obtain ⟨v, hv', h₂⟩ := bind_eq_ok_iff.1 h₁
    obtain ⟨_, -, h₃⟩ := bind_eq_ok_iff.1 h₂
    cases h₃
    exact .assign (ht.bind hm ht') (hv.bind hm hv')
  | assignCall ht hcall =>
    obtain ⟨r, f, args, rfl, hf, hargs⟩ := hcall
    rw [Code.bind] at hc
    obtain ⟨t, ht', h₁⟩ := bind_eq_ok_iff.1 hc
    obtain ⟨v, hv', h₂⟩ := bind_eq_ok_iff.1 h₁
    obtain ⟨_, -, h₃⟩ := bind_eq_ok_iff.1 h₂
    cases h₃
    exact .assignCall (ht.bind hm ht') (CallOf.subst hm ⟨r, f, args, rfl, hf, hargs⟩ hv')

/-! ## Replacing calls -/

/-- A statement of which nothing is left to be inlined. -/
def Done (c : Code) : Prop := c.inlined = true ∧ c.flatten = [c]

/-- Entering a call of a function that satisfies `P` leaves nothing to be inlined. -/
def Enter.Completes (enter : Enter) (P : String → Prop) : Prop :=
  ∀ f args target aug out, P f → (∀ a ∈ args, CallFree a) → target.inlined = true →
    aug.inlined = true → enter (text f) (tuple args) target aug = .ok out → ∀ c ∈ out, Done c

theorem Done.assign {t v o : Code} (r : Option Origin) (ht : t.inlined = true)
    (hv : v.inlined = true) (ho : o.inlined = true) : Done (.assign r t v o) := by
  refine ⟨?_, rfl⟩
  rw [inlined, ht, hv, ho]
  rfl

theorem inlineRet_eq_ok {target aug v : Code} {out : List Code}
    (h : inlineRet target aug r v = .ok out) : out = [] ∨ out = [.assign r target v aug] := by
  unfold inlineRet at h
  split at h
  · exact .inl (Except.ok.inj h).symm
  · exact nomatch h
  · exact nomatch h
  · obtain ⟨_, -, hpure⟩ := bind_eq_ok_iff.1 h
    exact .inr (Except.ok.inj hpure).symm

section Inline

variable {enter : Enter} {target aug : Code} {body out : List Code}

theorem inlineAll_done (h : ∀ c ∈ body, ∀ out, inlineWith enter target aug c = .ok out →
    ∀ d ∈ out, Done d) (hout : inlineAll enter target aug body = .ok out) : ∀ d ∈ out, Done d := by
  induction body generalizing out with
  | nil =>
    cases hout
    simp
  | cons c body ih =>
    rw [forall_mem_cons] at h
    obtain ⟨first, more, hfirst, hmore, rfl⟩ := inlineAll_cons_eq_ok hout
    exact forall_mem_append.2 ⟨h.1 first hfirst, ih h.2 hmore⟩

/-- Inlining leaves nothing to be inlined of a statement that is ready. -/
theorem Ready.inlineWith (henter : Enter.Completes enter P) (htarget : target.inlined = true)
    (haug : aug.inlined = true) (h : Ready P c) (hout : inlineWith enter target aug c = .ok out) :
    ∀ d ∈ out, Done d := by
  induction h generalizing out with
  | @pass r =>
    cases hout
    exact forall_mem_singleton.2 ⟨rfl, rfl⟩
  | @assign r t v o ht hv =>
    have heq : inlineWith enter target aug (.assign r t v (ofText? o)) =
        .ok [.assign r t v (ofText? o)] := by
      cases hv <;> rfl
    cases heq.symm.trans hout
    exact forall_mem_singleton.2 (.assign r ht.inlined hv.inlined (inlined_ofText? o))
  | @assignCall r t c o ht hc =>
    obtain ⟨rc, f, args, rfl, hf, hargs⟩ := hc
    exact henter f args t (ofText? o) out hf hargs ht.inlined (inlined_ofText? o) hout
  | @cond r t ra a rb b ht _ _ iha ihb =>
    obtain ⟨outa, outb, ha, hb, rfl⟩ := inlineWith_cond_eq_ok hout
    have hdonea := inlineAll_done (fun c hc _ => iha c hc) ha
    have hdoneb := inlineAll_done (fun c hc _ => ihb c hc) hb
    have hflata : Flat outa := fun d hd => (hdonea d hd).2
    have hflatb : Flat outb := fun d hd => (hdoneb d hd).2
    refine forall_mem_singleton.2 ⟨?_, rfl⟩
    rw [hflata.mkBlock, hflatb.mkBlock, inlined, inlined, inlined, ht.inlined,
      inlinedAll_iff.2 fun d hd => (hdonea d hd).1, inlinedAll_iff.2 fun d hd => (hdoneb d hd).1]
    rfl
  | @ret r v hv =>
    rcases inlineRet_eq_ok hout with rfl | rfl
    · simp
    · exact forall_mem_singleton.2 (.assign r htarget hv.inlined haug)
  | @bareRet r =>
    rcases inlineRet_eq_ok hout with rfl | rfl
    · simp
    · exact forall_mem_singleton.2 (.assign r htarget rfl haug)
  | bareCall hc =>
    obtain ⟨rc, f, args, rfl, hf, hargs⟩ := hc
    exact henter f args nothing nothing out hf hargs rfl rfl hout

theorem Ready.inlineBody {σ : Substitution} (hσ : σ.IsCallFree) (hm : m.IsCallFree)
    (henter : Enter.Completes enter P) (htarget : target.inlined = true)
    (haug : aug.inlined = true) (h : ∀ c ∈ body, Ready P c)
    (hout : inlineBody enter target aug σ m body = .ok out) : ∀ d ∈ out, Done d := by
  induction body generalizing out with
  | nil =>
    cases hout
    simp
  | cons c body ih =>
    rw [forall_mem_cons] at h
    obtain ⟨-, renamed, bound, first, more, hrenamed, hbound, hfirst, hmore, rfl⟩ :=
      inlineBody_cons_eq_ok_iff.1 hout
    have hready : Ready P bound := Ready.bind hm (Ready.subst hσ h.1 hrenamed) hbound
    exact forall_mem_append.2
      ⟨Ready.inlineWith henter htarget haug hready hfirst, ih h.2 hmore⟩

end Inline

end Code

/-! ## Calls -/

/-- A function whose calls are whole values or whole statements, without calls in their arguments;
calls under operators aside. -/
def Func.Direct (f : Func) : Prop := ∃ b body, f.body = .block b body ∧ ∀ c ∈ body, Code.Direct c

namespace Module

open Code

variable {m : Module} {all : List Datum} {depth : Nat}

/-- What following a call is made of. -/
theorem followAt_eq_ok {stack : List String} {names : List Datum} {c callee : Code}
    (h : m.followAt depth stack c callee = .ok names) :
    ∃ below name g own rest, depth = below + 1 ∧ callee = Code.text name ∧ name ∉ stack ∧
      Table.find? m.functions name = some g ∧
      g.body.reached (m.followAt below) (stack ++ [name]) = .ok own ∧
      reachedAll (m.followAt below) (stack ++ [name]) ((g.globals ++ g.locals).map Var.code) =
        .ok rest ∧ names = .str name :: (own ++ rest) := by
  cases depth with
  | zero =>
    obtain ⟨_, -, h₁⟩ := bind_eq_ok_iff.1 h
    exact nomatch h₁
  | succ below =>
    simp only [followAt] at h
    split at h
    · next name =>
        split at h
        · exact nomatch h
        · next hstack =>
            split at h
            · exact nomatch h
            · next g hg =>
                obtain ⟨parts, hparts, h₁⟩ := bind_eq_ok_iff.1 h
                obtain ⟨own, hown, h₂⟩ := bind_eq_ok_iff.1 hparts
                obtain ⟨rest, hrest, h₃⟩ := bind_eq_ok_iff.1 h₂
                cases h₃
                cases h₁
                exact ⟨below, name, g, own, rest, rfl, rfl, by simpa using hstack, hg, hown, hrest,
                  rfl⟩
    · exact nomatch h

/-- Nothing is left to be inlined of a call, however deep calls are nested in it. -/
theorem callAt_done (hall : ∀ g ∈ m.functions, .str g.name ∈ all → g.Direct) {below : Nat}
    {f : Func} {b : Option Origin} {body : List Code} (hbody : f.body = .block b body)
    (hdirect : ∀ c ∈ body, Code.Direct c) {route : List String} {names : List Datum}
    (hreached : reachedAll (m.followAt below) route body = .ok names) (hnames : names ⊆ all)
    {args : List Code} (hargs : ∀ a ∈ args, CallFree a) {target aug : Code}
    (htarget : target.inlined = true) (haug : aug.inlined = true) {stack out : List Code}
    (h : callAt (m.functions.map Func.code) tooDeep depth f.code (tuple args) target aug stack =
      .ok out) :
    ∀ c ∈ out, Done c := by
  induction depth generalizing f b body below route names args target aug stack out with
  | zero => exact nomatch h
  | succ depth ih =>
    obtain ⟨-, -, scope, normal, stmts, hscope, hnormal, hstmts, hout⟩ :=
      callOnce_tuple_eq_ok_iff.1 h
    have hready : ∀ c ∈ body, Ready (Followed (m.followAt below) all) c := by
      intro c hc
      obtain ⟨own, hown, hsub⟩ := reached_of_mem hreached hc
      exact Direct.ready (hdirect c hc) hown (List.Subset.trans hsub hnames)
    rw [hbody] at hnormal
    obtain ⟨items, hitems, rfl⟩ := normalReturns_items_eq_ok hnormal hstmts
    have hitemsReady := Statement.normalItems_eq_ok hready hitems
    rw [(Statement.flat hitemsReady).flattenAll] at hout
    refine Ready.inlineBody (Func.renames_scopeEntries hscope).isCallFree
      (fun x a ha => hargs a (mem_of_ofArguments ha)) ?_ htarget haug hitemsReady hout
    rintro callee args target aug out ⟨stack', c, own, hfollow, hown⟩ hargs htarget haug hcall
    obtain ⟨below', _, g, own', rest, -, hcallee, -, hg, hgreached, -, rfl⟩ :=
      followAt_eq_ok hfollow
    cases hcallee
    have hmem : .str callee ∈ Datum.str callee :: (own' ++ rest) := mem_cons_self
    have hsub : own' ⊆ Datum.str callee :: (own' ++ rest) :=
      fun f hf => mem_cons_of_mem _ (mem_append_left rest hf)
    have hfind : m.functions.find? (fun g => g.name == callee) = some g := hg
    have hname : g.name = callee := by simpa using List.find?_some hfind
    obtain ⟨b', body', hbody', hdirect'⟩ :=
      hall g (mem_of_find?_eq_some hfind) (hname ▸ hown hmem)
    rw [entering, find?_map_code, hfind] at hcall
    rw [hbody', reached] at hgreached
    exact ih hbody' hdirect' hgreached (List.Subset.trans hsub hown) hargs htarget haug hcall

end Module

/-- Where the calls of the functions that can be reached are whole values or whole statements,
without calls in their arguments, inlining leaves no call and no return at any depth. -/
theorem Func.inlined_call {m : Module} {f : Func} (hf : f ∈ m.functions) {names : List String}
    (hreach : m.reachable f = .ok names)
    (hdirect : ∀ g ∈ m.functions, g.name ∈ names → g.Direct) {out : List Code}
    (h : f.call m.functions [] none none [] = .ok out) : ∀ c ∈ out, c.inlined = true := by
  obtain ⟨calls, hcalls, hnames⟩ := bind_eq_ok_iff.1 hreach
  cases hnames
  have hmem {g : String} : g ∈ (f.name :: Datum.texts calls).eraseDups ↔
      .str g ∈ Datum.str f.name :: calls := by
    rw [mem_eraseDups, mem_cons, mem_cons, Datum.mem_texts, Datum.str.injEq]
  obtain ⟨b, body, hbody, hstmts⟩ := hdirect f hf (hmem.2 mem_cons_self)
  rw [Module.visited, hbody, Code.reachedBody] at hcalls
  intro c hc
  exact (Module.callAt_done (fun g hg hname => hdirect g hg (hmem.2 hname)) hbody hstmts hcalls
    (subset_cons_self _ calls) (by simp) rfl rfl h c hc).1

section Sample

open Code

/-- A variable. -/
def sampleVar : Var := ⟨sampleOrigin, "x", "int", nothing, constOf sampleOrigin (.int 0)⟩

/-- Returns its parameter under an operator. -/
def sampleGiven : Func :=
  let o := sampleOrigin
  ⟨o, "h", ["n"], .block o [.ret o (opOf o "+" [nameOf o "n", constOf o (.int 1)])], [], []⟩

/-- Stores the result of a call and returns what it has stored. -/
def sampleStored : Func :=
  let o := sampleOrigin
  ⟨o, "g", [], .block o [
    .assign o (nameOf o "x") (callOf o "h" [constOf o (.int 2)]) (ofText? none),
    .ret o (nameOf o "x")], [sampleVar], []⟩

/-- Returns the result of a call. -/
def sampleReturned : Func :=
  let o := sampleOrigin
  ⟨o, "g", [], .block o [.ret o (callOf o "h" [constOf o (.int 2)])], [], []⟩

/-- Stores the result of a call. -/
def sampleStart : Func :=
  let o := sampleOrigin
  ⟨o, "f", [], .block o [.assign o (nameOf o "x") (callOf o "g" []) (ofText? none)], [sampleVar],
    []⟩

/-- A module with a variable and three functions. -/
def sampleModule (g : Func) : Module :=
  ⟨[sampleVar], [], [sampleGiven, g, sampleStart]⟩

/-- Calls that are nested in whole values are all replaced. -/
theorem Func.inlined_call_stored : ∃ out,
    (sampleModule sampleStored).reachable sampleStart = .ok ["f", "g", "h"] ∧
    sampleStart.call (sampleModule sampleStored).functions [] none none [] = .ok out ∧
    out.length = 2 ∧ ∀ c ∈ out, c.inlined = true := by
  have hreach : (sampleModule sampleStored).reachable sampleStart = .ok ["f", "g", "h"] := by
    cbv
  have hcall : sampleStart.call (sampleModule sampleStored).functions [] none none [] =
      .ok [.assign sampleOrigin (nameOf sampleOrigin "x")
          (opOf sampleOrigin "+" [constOf sampleOrigin (.int 2), constOf sampleOrigin (.int 1)])
          nothing,
        .assign sampleOrigin (nameOf sampleOrigin "x") (nameOf sampleOrigin "x") nothing] := by
    cbv
  have hgiven : sampleGiven.Direct :=
    ⟨_, _, rfl, forall_mem_singleton.2
      (.ret (.op (forall_mem_cons.2 ⟨.name, forall_mem_singleton.2 .const⟩)))⟩
  have hstored : sampleStored.Direct :=
    ⟨_, _, rfl, forall_mem_cons.2
      ⟨.assignCall .name ⟨_, _, _, rfl, trivial, forall_mem_singleton.2 .const⟩,
        forall_mem_singleton.2 (.ret .name)⟩⟩
  have hstart : sampleStart.Direct :=
    ⟨_, _, rfl, forall_mem_singleton.2
      (.assignCall .name ⟨_, _, _, rfl, trivial, forall_mem_nil _⟩)⟩
  have hdirect : ∀ g ∈ (sampleModule sampleStored).functions, g.Direct :=
    forall_mem_cons.2 ⟨hgiven, forall_mem_cons.2 ⟨hstored, forall_mem_singleton.2 hstart⟩⟩
  exact ⟨_, hreach, hcall, rfl, Func.inlined_call
    (mem_cons_of_mem _ (mem_cons_of_mem _ mem_cons_self)) hreach
    (fun g hg _ => hdirect g hg) hcall⟩

/-- A call that is returned stays, though following calls finds nothing wrong with it. -/
theorem Func.inlined_call_returned : ∃ out, (sampleModule sampleReturned).checkNames = .ok () ∧
    (sampleModule sampleReturned).reachable sampleStart = .ok ["f", "g", "h"] ∧
    sampleStart.call (sampleModule sampleReturned).functions [] none none [] = .ok out ∧
    ∃ c ∈ out, c.inlined = false := by
  have hcall : sampleStart.call (sampleModule sampleReturned).functions [] none none [] =
      .ok [.assign sampleOrigin (nameOf sampleOrigin "x")
        (callOf sampleOrigin "h" [constOf sampleOrigin (.int 2)]) nothing] := by
    cbv
  exact ⟨_, by cbv, by cbv, hcall, _, mem_cons_self, rfl⟩

end Sample

end DataDiagram
