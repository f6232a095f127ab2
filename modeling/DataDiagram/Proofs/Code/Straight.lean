import DataDiagram.Proofs.Code.Inline
/-!
# Calls without choices

A body that assigns values to variables one after the other and returns a value in the end does,
when it is put in place of a call, what its statements say with the names read as they are replaced:
locals by their new names, parameters by the arguments.
-/

namespace DataDiagram

open List

namespace Substitution

/-- Names are replaced by names. -/
def Renames (m : Substitution) (ρ : String → String) : Prop :=
  ∀ x, (m x = none ∧ ρ x = x) ∨ ∃ r, m x = some (Code.nameOf r (ρ x))

namespace Renames

open Code

variable {σ : Substitution} {ρ : String → String}

theorem isArith (h : σ.Renames ρ) : σ.IsArith := by
  intro x a hx
  rcases h x with ⟨hnone, -⟩ | ⟨r, hsome⟩
  · rw [hnone] at hx
    cases hx
  · rw [hsome] at hx
    cases hx
    exact .name trivial

theorem look_eq (h : σ.Renames ρ) (I : Operators) (s : Valuation) :
    σ.look I s = fun x => s (ρ x) := by
  funext x
  rcases h x with ⟨hnone, hx⟩ | ⟨r, hsome⟩
  · rw [look, hnone, hx]
  · rw [look, hsome]
    rfl

theorem subst_nameOf (h : σ.Renames ρ) (t : Option Origin) (x : String) :
    ∃ t', (nameOf t x).subst σ = .ok (nameOf t' (ρ x)) := by
  rw [Code.subst, substName]
  rcases h x with ⟨hnone, hx⟩ | ⟨r, hsome⟩
  · exact ⟨t, by simp only [hnone, hx]⟩
  · exact ⟨r, by simp only [hsome, Code.replaceName]⟩

end Renames

end Substitution

namespace Code

/-- `Straight body` says that `body` assigns expressions to variables, one after the other, and ends
with the return of an expression. -/
inductive Straight : List Code → Prop
  | pass {r rest} (next : Straight rest) : Straight (.pass r :: rest)
  | assign {r t x v aug rest} (hv : Arith (fun _ => True) v) (next : Straight rest) :
    Straight (.assign r (nameOf t x) v (ofText? aug) :: rest)
  | ret {r v} (hv : Arith (fun _ => True) v) : Straight [.ret r v]

theorem Straight.flat {body : List Code} (h : Straight body) : Flat body := by
  induction h with
  | pass _ ih | assign _ _ ih => exact .cons rfl ih
  | ret => exact .cons rfl flat_nil

theorem Straight.normalItems_eq {body : List Code} (h : Straight body) :
    normalItems body = .ok body := by
  induction h with
  | pass _ ih | assign _ _ ih =>
    rw [Code.normalItems, ih]
    · rfl
    all_goals simp
  | ret => rfl

variable {c : Code}

theorem Straight.normalReturns_eq_ok_iff {body : List Code} (h : Straight body)
    {b : Option Origin} :
    normalReturns (.block b body) = .ok c ↔ b.isSome = true ∧ c = .block b body := by
  rw [normalReturns, h.normalItems_eq]
  cases b with
  | none =>
    constructor
    · intro hc
      cases hc
    · rintro ⟨⟨⟩, -⟩
  | some o =>
    refine ⟨fun hc => ⟨rfl, ?_⟩, fun hc => ?_⟩
    · rw [← h.flat.mkBlock]
      exact (Except.ok.inj hc).symm
    · rw [hc.2, ← h.flat.mkBlock]
      rfl

variable {I : Operators} {defs : List Func} {σ m m' : Substitution} {ρ : String → String}
  {v v' : Code} {vars : String → Prop} {enter : Enter} {target aug : Code} {rest out : List Code}

/-! ## Statements one by one -/

/-- What a value becomes when locals are renamed and parameters are replaced. -/
def Becomes (σ m : Substitution) (v v' : Code) : Prop :=
  ∃ v₁, v.subst σ = .ok v₁ ∧ v₁.subst m = .ok v'

namespace Becomes

theorem arith_eval (hσ : σ.Renames ρ) (hm : m.IsArith) (hv : Arith vars v)
    (h : Becomes σ m v v') (I : Operators) (s : Valuation) :
    Arith (fun _ => True) v' ∧ v'.eval I s = v.eval I fun x => m.look I s (ρ x) := by
  obtain ⟨v₁, h₁, h₂⟩ := h
  obtain ⟨harith₁, -⟩ := hv.eval_subst hσ.isArith h₁ I s
  obtain ⟨harith₂, heval₂⟩ := harith₁.eval_subst hm h₂ I s
  obtain ⟨-, heval₁⟩ := hv.eval_subst hσ.isArith h₁ I (m.look I s)
  rw [hσ.look_eq] at heval₁
  exact ⟨harith₂, heval₂.trans heval₁⟩

theorem arith (hσ : σ.Renames ρ) (hm : m.IsArith) (hv : Arith vars v) (h : Becomes σ m v v') :
    Arith (fun _ => True) v' :=
  (h.arith_eval hσ hm hv (fun _ _ => 0) (fun _ => 0)).1

theorem exists_becomes (hσ : σ.Renames ρ) (hm' : m'.IsArith) (hv : Arith vars v)
    (h : Becomes σ m v v') : ∃ v'', Becomes σ m' v v'' := by
  obtain ⟨v₁, h₁, h₂⟩ := h
  obtain ⟨harith₁, -⟩ := hv.eval_subst hσ.isArith h₁ (fun _ _ => 0) (fun _ => 0)
  obtain ⟨v'', h''⟩ := harith₁.exists_subst hm' h₂
  exact ⟨v'', v₁, h₁, h''⟩

end Becomes

theorem inlineBody_cons_eq_ok_iff : inlineBody enter target aug σ m (c :: rest) = .ok out ↔
      c.isNode = true ∧ ∃ renamed bound first more, c.subst σ = .ok renamed ∧
        renamed.bind m .usual = .ok bound ∧ inlineWith enter target aug bound = .ok first ∧
        inlineBody enter target aug σ m rest = .ok more ∧ out = first ++ more := by
  rw [inlineBody, requireNode]
  cases c.isNode with
  | false =>
    constructor
    · intro h
      cases h
    · rintro ⟨⟨⟩, -⟩
  | true =>
    constructor
    · intro h
      obtain ⟨_, -, h₁⟩ := bind_eq_ok_iff.1 h
      obtain ⟨renamed, hrenamed, h₂⟩ := bind_eq_ok_iff.1 h₁
      obtain ⟨bound, hbound, h₃⟩ := bind_eq_ok_iff.1 h₂
      obtain ⟨first, hfirst, h₄⟩ := bind_eq_ok_iff.1 h₃
      obtain ⟨more, hmore, h₅⟩ := bind_eq_ok_iff.1 h₄
      exact ⟨rfl, renamed, bound, first, more, hrenamed, hbound, hfirst, hmore,
        (Except.ok.inj h₅).symm⟩
    · rintro ⟨-, renamed, bound, first, more, hrenamed, hbound, hfirst, hmore, rfl⟩
      refine bind_eq_ok_iff.2 ⟨(), rfl, bind_eq_ok_iff.2 ⟨renamed, hrenamed, ?_⟩⟩
      refine bind_eq_ok_iff.2 ⟨bound, hbound, bind_eq_ok_iff.2 ⟨first, hfirst, ?_⟩⟩
      exact bind_eq_ok_iff.2 ⟨more, hmore, rfl⟩

theorem inlineBody_pass_eq_ok_iff (r : Option Origin) :
    inlineBody enter target aug σ m (.pass r :: rest) = .ok out ↔
      r.isSome = true ∧ ∃ more, inlineBody enter target aug σ m rest = .ok more ∧
        out = .pass r :: more := by
  rw [inlineBody_cons_eq_ok_iff]
  cases r with
  | none => exact ⟨(fun ⟨_, _, _, _, _, h, _⟩ => nomatch h), (fun h => nomatch h.1)⟩
  | some o =>
    constructor
    · rintro ⟨-, renamed, bound, first, more, hrenamed, hbound, hfirst, hmore, rfl⟩
      cases hrenamed
      cases hbound
      cases hfirst
      exact ⟨rfl, more, hmore, rfl⟩
    · rintro ⟨-, more, hmore, rfl⟩
      exact ⟨rfl, _, _, _, more, rfl, rfl, rfl, hmore, rfl⟩

theorem inlineBody_assign_eq_ok_iff (hσ : σ.Renames ρ) (hm : m.IsArith) (hv : Arith vars v)
    (r t : Option Origin) (x : String) (o : Option String) :
    ∃ t', ∀ out,
      inlineBody enter target aug σ m (.assign r (nameOf t x) v (ofText? o) :: rest) = .ok out ↔
        r.isSome = true ∧ ∃ v' more, Becomes σ m v v' ∧
          inlineBody enter target aug σ m rest = .ok more ∧
          out = .assign r (nameOf t' (ρ x)) v' (ofText? o) :: more := by
  obtain ⟨t', ht'⟩ := hσ.subst_nameOf t x
  refine ⟨t', fun out => ?_⟩
  rw [inlineBody_cons_eq_ok_iff]
  constructor
  · rintro ⟨-, renamed, bound, first, more, hrenamed, hbound, hfirst, hmore, rfl⟩
    rw [Code.subst, ht', subst_ofText?] at hrenamed
    obtain ⟨_, htarget, h₁⟩ := bind_eq_ok_iff.1 hrenamed
    obtain ⟨v₁, hv₁, h₂⟩ := bind_eq_ok_iff.1 h₁
    obtain ⟨_, hop, h₃⟩ := bind_eq_ok_iff.1 h₂
    obtain ⟨_, href, h₄⟩ := bind_eq_ok_iff.1 h₃
    cases htarget
    cases hop
    cases h₄
    have harith₁ := (hv.eval_subst hσ.isArith hv₁ (fun _ _ => 0) (fun _ => 0)).1
    rw [Code.bind, harith₁.bind_eq_subst] at hbound
    obtain ⟨_, hleft, h₅⟩ := bind_eq_ok_iff.1 hbound
    obtain ⟨v', hv', h₆⟩ := bind_eq_ok_iff.1 h₅
    obtain ⟨_, -, h₇⟩ := bind_eq_ok_iff.1 h₆
    cases hleft
    cases h₇
    rw [inlineWith_assign_arith (Becomes.arith hσ hm hv ⟨v₁, hv₁, hv'⟩)] at hfirst
    cases hfirst
    refine ⟨?_, v', more, ⟨v₁, hv₁, hv'⟩, hmore, rfl⟩
    cases r with
    | none => cases href
    | some => rfl
  · rintro ⟨hr, v', more, ⟨v₁, hv₁, hv'⟩, hmore, rfl⟩
    obtain ⟨o', rfl⟩ := Option.isSome_iff_exists.1 hr
    have harith₁ := (hv.eval_subst hσ.isArith hv₁ (fun _ _ => 0) (fun _ => 0)).1
    have harith' := Becomes.arith hσ hm hv ⟨v₁, hv₁, hv'⟩
    refine ⟨rfl, .assign (some o') (nameOf t' (ρ x)) v₁ (ofText? o), _, _, more, ?_, ?_,
      inlineWith_assign_arith harith' .., hmore, rfl⟩
    · rw [Code.subst, ht', subst_ofText?, hv₁]
      rfl
    · rw [Code.bind, harith₁.bind_eq_subst, hv']
      rfl

theorem inlineBody_ret_eq_ok_iff (hσ : σ.Renames ρ) (hm : m.IsArith) (hv : Arith vars v)
    (r t : Option Origin) (y : String) :
    inlineBody enter (nameOf t y) nothing σ m [.ret r v] = .ok out ↔
      r.isSome = true ∧ ∃ v', Becomes σ m v v' ∧ out = [.assign r (nameOf t y) v' nothing] := by
  rw [inlineBody_cons_eq_ok_iff]
  constructor
  · rintro ⟨-, renamed, bound, first, more, hrenamed, hbound, hfirst, hmore, rfl⟩
    obtain ⟨v₁, hv₁, rfl⟩ := subst_ret_eq_ok hrenamed
    obtain ⟨v', hv', rfl⟩ := subst_ret_eq_ok hbound
    have harith := Becomes.arith hσ hm hv ⟨v₁, hv₁, hv'⟩
    have hassign : inlineRet (targetOf t (some y)) (ofText? none) r v' = .ok first := hfirst
    obtain ⟨y', hy', rfl⟩ := inlineRet_arith_eq_ok harith hassign
    cases hmore
    cases hy'
    refine ⟨?_, v', ⟨v₁, hv₁, hv'⟩, rfl⟩
    cases r with
    | none => cases harith <;> exact nomatch hfirst
    | some => rfl
  · rintro ⟨hr, v', ⟨v₁, hv₁, hv'⟩, rfl⟩
    obtain ⟨o, rfl⟩ := Option.isSome_iff_exists.1 hr
    have harith := Becomes.arith hσ hm hv ⟨v₁, hv₁, hv'⟩
    refine ⟨rfl, .ret (some o) v₁, .ret (some o) v', [.assign (some o) (nameOf t y) v' nothing], [],
      ?_, ?_, ?_, rfl, rfl⟩
    · rw [Code.subst, hv₁]
      rfl
    · rw [Code.bind, Code.subst, hv']
      · rfl
      all_goals simp
    · rw [inlineWith]
      cases harith <;> rfl

/-! ## What a body does -/

/-- The operator of an assignment. -/
def augOf : Code → Option String
  | text o => some o
  | _ => none

@[simp]
theorem augOf_ofText? (o : Option String) : augOf (ofText? o) = o := by
  cases o <;> rfl

/-- What becomes of the variables when a body is executed whose names are read by `look` and whose
targets are renamed by `ρ`; the value that is returned goes to `y`. -/
def effect (I : Operators) (look : Valuation → String → Int) (ρ : String → String) (y : String) :
    List Code → Valuation → Valuation
  | .assign _ (nameOf _ x) v o :: rest, s =>
    effect I look ρ y rest (I.store (some (ρ x)) (augOf o) (v.eval I (look s)) s)
  | .ret _ v :: _, s => I.store (some y) none (v.eval I (look s)) s
  | _ :: rest, s => effect I look ρ y rest s
  | [], s => s

variable {body : List Code} {t : Option Origin} {y : String}

/-- What a body is replaced by has the effect of the body. -/
theorem Straight.exec_inlineBody (I : Operators) (defs : List Func) (hσ : σ.Renames ρ)
    (hm : m.IsArith) (h : Straight body)
    (hout : inlineBody enter (nameOf t y) nothing σ m body = .ok out) (s : Valuation) :
    Exec I defs .empty out s .fell (effect I (fun s x => m.look I s (ρ x)) ρ y body s) := by
  induction h generalizing out s with
  | pass _ ih =>
    obtain ⟨-, more, hmore, rfl⟩ := (inlineBody_pass_eq_ok_iff _).1 hout
    exact .pass (ih hmore s)
  | @assign r t x v aug rest hv _ ih =>
    obtain ⟨t', hiff⟩ := inlineBody_assign_eq_ok_iff hσ hm hv r t x aug
    obtain ⟨-, v', more, hv', hmore, rfl⟩ := (hiff out).1 hout
    obtain ⟨n, hn⟩ := hv.exists_eval I fun x => m.look I s (ρ x)
    have hn' : v'.eval I s = some n := (hv'.arith_eval hσ hm hv I s).2.trans hn
    rw [effect, augOf_ofText?, hn]
    exact .assign rfl hn' (ih hmore _)
  | @ret r v hv =>
    obtain ⟨-, v', hv', rfl⟩ := (inlineBody_ret_eq_ok_iff hσ hm hv r t y).1 hout
    obtain ⟨n, hn⟩ := hv.exists_eval I fun x => m.look I s (ρ x)
    have hn' : v'.eval I s = some n := (hv'.arith_eval hσ hm hv I s).2.trans hn
    have hplain : nothing = ofText? none := rfl
    rw [effect, hn]
    exact .assign hplain hn' .nil

/-- A body that can be put in place of one call can be put in place of another one. -/
theorem Straight.exists_inlineBody (hσ : σ.Renames ρ) (hm : m.IsArith) (hm' : m'.IsArith)
    (h : Straight body) (hout : inlineBody enter (nameOf t y) nothing σ m body = .ok out) :
    ∃ out', inlineBody enter (nameOf t y) nothing σ m' body = .ok out' := by
  induction h generalizing out with
  | pass _ ih =>
    obtain ⟨hr, more, hmore, rfl⟩ := (inlineBody_pass_eq_ok_iff _).1 hout
    obtain ⟨more', hmore'⟩ := ih hmore
    exact ⟨_, (inlineBody_pass_eq_ok_iff _).2 ⟨hr, more', hmore', rfl⟩⟩
  | @assign r t x v aug rest hv _ ih =>
    obtain ⟨t', hiff⟩ := inlineBody_assign_eq_ok_iff hσ hm hv r t x aug
    obtain ⟨hr, v', more, hv', hmore, rfl⟩ := (hiff out).1 hout
    obtain ⟨v'', hv''⟩ := hv'.exists_becomes hσ hm' hv
    obtain ⟨more', hmore'⟩ := ih hmore
    obtain ⟨t'', hiff'⟩ := inlineBody_assign_eq_ok_iff hσ hm' hv r t x aug
    exact ⟨_, (hiff' _).2 ⟨hr, v'', more', hv'', hmore', rfl⟩⟩
  | @ret r v hv =>
    obtain ⟨hr, v', hv', rfl⟩ := (inlineBody_ret_eq_ok_iff hσ hm hv r t y).1 hout
    obtain ⟨v'', hv''⟩ := hv'.exists_becomes hσ hm' hv
    exact ⟨_, (inlineBody_ret_eq_ok_iff hσ hm' hv r t y).2 ⟨hr, v'', hv'', rfl⟩⟩

variable {x : String} {args : List Code}

theorem store_of_ne {z : String} (hz : z ≠ x) (o : Option String) (n : Option Int)
    (s : Valuation) : I.store (some x) o n s z = s z := by
  cases n with
  | none => rfl
  | some n => exact Function.update_of_ne hz _ s

theorem store_self (x : String) (o : Option String) (n : Int) (s : Valuation) :
    I.store (some x) o (some n) s x = I.update o (s x) n :=
  Function.update_self ..

/-! ## Arguments -/

theorem ofArguments_cons (p : String) (params : List String) (a : Code) (args : List Code)
    (x : String) :
    Substitution.ofArguments ((p :: params).map text) (a :: args) x =
      (Substitution.ofArguments (params.map text) args x).or (if p = x then some a else none) :=
  Substitution.ofList_cons p a _ x

theorem mem_of_ofArguments {params : List String} {a : Code}
    (h : Substitution.ofArguments (params.map text) args x = some a) : a ∈ args := by
  induction params generalizing args with
  | nil => exact nomatch h
  | cons p params ih =>
    cases args with
    | nil => exact nomatch h
    | cons b args =>
      rw [ofArguments_cons, Option.or_eq_some_iff] at h
      rcases h with h | ⟨-, h⟩
      · exact mem_cons_of_mem b (ih h)
      · split at h
        · cases h
          exact mem_cons_self
        · cases h

theorem isArith_ofArguments (h : ∀ a ∈ args, Arith vars a)
    (params : List String) : (Substitution.ofArguments (params.map text) args).IsArith :=
  fun _ a ha => (h a (mem_of_ofArguments ha)).mono fun _ _ => trivial

end Code

namespace Func

open Code

variable {f : Func} {b : Option Origin} {body : List Code}

/-- The name that a name of a function has outside of it: locals are renamed. -/
def outerName (f : Func) (x : String) : String :=
  if x ∈ f.locals.map Var.name then f.localName x else x

variable {scope : List (String × Code)}

theorem scopeEntries_cons_eq_ok {v : Var} {locals : List Var}
    (h : scopeEntries (text f.name) ((v :: locals).map Var.code) = .ok scope) :
    ∃ more, scopeEntries (text f.name) (locals.map Var.code) = .ok more ∧
      scope = (v.name, nameOf v.ref (f.localName v.name)) :: more := by
  rw [map_cons, scopeEntries] at h
  obtain ⟨declared, hdeclared, h₁⟩ := bind_eq_ok_iff.1 h
  obtain ⟨new, hnew, h₂⟩ := bind_eq_ok_iff.1 h₁
  obtain ⟨_, -, h₃⟩ := bind_eq_ok_iff.1 h₂
  obtain ⟨more, hmore, h₄⟩ := bind_eq_ok_iff.1 h₃
  cases hdeclared
  cases hnew
  exact ⟨more, hmore, (Except.ok.inj h₄).symm⟩

theorem ofList_scopeEntries {locals : List Var}
    (h : scopeEntries (text f.name) (locals.map Var.code) = .ok scope) (x : String) :
    (x ∉ locals.map Var.name ∧ Substitution.ofList scope x = none) ∨
      x ∈ locals.map Var.name ∧ ∃ r, Substitution.ofList scope x =
      some (nameOf r (f.localName x)) := by
  induction locals generalizing scope with
  | nil =>
    cases h
    exact .inl ⟨not_mem_nil, rfl⟩
  | cons v locals ih =>
    obtain ⟨more, hmore, rfl⟩ := scopeEntries_cons_eq_ok h
    rw [Substitution.ofList_cons, map_cons, mem_cons]
    rcases ih hmore with ⟨hx, hnone⟩ | ⟨hx, r, hsome⟩
    · by_cases hv : v.name = x
      · refine .inr ⟨.inl hv.symm, v.ref, ?_⟩
        rw [hnone, if_pos hv, hv]
        rfl
      · refine .inl ⟨not_or.2 ⟨Ne.symm hv, hx⟩, ?_⟩
        rw [hnone, if_neg hv]
        rfl
    · refine .inr ⟨.inr hx, r, ?_⟩
      rw [hsome]
      rfl

theorem renames_scopeEntries (h : scopeEntries (text f.name) (f.locals.map Var.code) = .ok scope) :
    (Substitution.ofList scope).Renames f.outerName := by
  intro x
  rcases ofList_scopeEntries h x with ⟨hx, hnone⟩ | ⟨hx, r, hsome⟩
  · exact .inl ⟨hnone, if_neg hx⟩
  · refine .inr ⟨r, ?_⟩
    rw [hsome, outerName, if_pos hx]

/-- What a call of a function without choices is made of. -/
theorem call_eq_ok_iff (hbody : f.body = .block b body) (hstraight : Straight body)
    {defs : List Func} {args : List Code} {target : Option Code} {aug : Option String}
    {out : List Code} :
    f.call defs args target aug [] = .ok out ↔
      args.length = f.args.length ∧ b.isSome = true ∧ ∃ scope,
        scopeEntries (text f.name) (f.locals.map Var.code) = .ok scope ∧
        inlineBody (entering (defs.map Func.code)
            (callAt (defs.map Func.code) tooDeep ((defs.map Func.code).length + 1)) [text f.name])
          (ofOption target) (ofText? aug) (.ofList scope) (.ofArguments (f.args.map text) args)
          body = .ok out := by
  rw [Func.call, callWith, callDepth, callAt, callOnce_tuple_eq_ok_iff, hbody]
  constructor
  · rintro ⟨harity, -, scope, normal, stmts, hscope, hnormal, hstmts, hout⟩
    obtain ⟨hb, rfl⟩ := hstraight.normalReturns_eq_ok_iff.1 hnormal
    cases hstmts
    exact ⟨harity, hb, scope, hscope, hout⟩
  · rintro ⟨harity, hb, scope, hscope, hout⟩
    exact ⟨harity, rfl, scope, .block b body, body, hscope,
      hstraight.normalReturns_eq_ok_iff.2 ⟨hb, rfl⟩, rfl, hout⟩

end Func

end DataDiagram
