import DataDiagram.Proofs.Code.Body
/-!
# Shapes of code

Trees are untyped; most of them are neither an expression nor a statement.  The shapes below say
which ones are, with parameters for what may be assigned to, which values may stand in a statement
and which calls may be made.  The statements of a shape stay in it when returns are made normal and
when names are replaced.
-/

namespace DataDiagram

open List

namespace Code

/-- An expression without calls. -/
inductive CallFree : Code → Prop
  | const {r d} : CallFree (constOf r d)
  | name {r x} : CallFree (nameOf r x)
  | op {r symbol operands} (h : ∀ c ∈ operands, CallFree c) : CallFree (opOf r symbol operands)
  | attr {r v field} (hv : CallFree v) : CallFree (attrOf r v field)
  | item {r v i} (hv : CallFree v) (hi : CallFree i) : CallFree (.item r v i)

/-- An expression.  Calls may stand under operators, and if `calls` also elsewhere. -/
inductive Expression : (calls : Bool) → Code → Prop
  | const {calls r d} : Expression calls (constOf r d)
  | name {calls r x} : Expression calls (nameOf r x)
  | op {calls r symbol operands} (h : ∀ c ∈ operands, Expression true c) :
    Expression calls (opOf r symbol operands)
  | attr {calls r v field} (hv : Expression calls v) : Expression calls (attrOf r v field)
  | item {calls r v i} (hv : Expression calls v) (hi : Expression calls i) :
    Expression calls (.item r v i)
  | call {r f args} (h : ∀ a ∈ args, Expression true a) : Expression true (callOf r f args)

/-- A call of a function that satisfies `P`, with arguments that satisfy `Arg`. -/
def CallOf (P : String → Prop) (Arg : Code → Prop) (c : Code) : Prop :=
  ∃ r f args, c = callOf r f args ∧ P f ∧ ∀ a ∈ args, Arg a

/-- `Statement Target Value Called c` says that `c` is a statement that assigns to targets only, in
which calls that are a whole value or a whole statement are `Called` and all other values are
`Value`. -/
inductive Statement (Target Value Called : Code → Prop) : Code → Prop
  | pass {r} : Statement Target Value Called (.pass r)
  | assign {r t v aug} (ht : Target t) (hv : Value v) :
    Statement Target Value Called (.assign r t v (ofText? aug))
  | assignCall {r t c aug} (ht : Target t) (hc : Called c) :
    Statement Target Value Called (.assign r t c (ofText? aug))
  | cond {r t ra a rb b} (ht : Value t) (ha : ∀ c ∈ a, Statement Target Value Called c)
    (hb : ∀ c ∈ b, Statement Target Value Called c) :
    Statement Target Value Called (.cond r t (.block ra a) (.block rb b))
  | ret {r v} (hv : Value v) : Statement Target Value Called (.ret r v)
  | bareRet {r} : Statement Target Value Called (.ret r nothing)
  | bareCall {r c} (hc : Called c) : Statement Target Value Called (.bareCall r c)

/-- A statement of the language. -/
abbrev IsStatement (c : Code) : Prop :=
  Statement (fun t => t.isLookup = true ∧ Expression true t) (Expression true)
    (CallOf (fun _ => True) (Expression true)) c

variable {Target Value Called : Code → Prop} {c c' : Code}
  {body items : List Code} {m : Substitution}

theorem CallFree.isNode (h : CallFree c) : c.isNode = true := by
  cases h <;> rfl

theorem CallFree.replaceName (h : CallFree c) (r : Option Origin) (id : Code) :
    replaceName r id c = .ok c := by
  cases h <;> rfl

theorem Expression.isNode {calls : Bool} (h : Expression calls c) : c.isNode = true := by
  cases h <;> rfl

theorem CallOf.expression {P : String → Prop} (h : CallOf P (Expression true) c) :
    Expression true c := by
  obtain ⟨r, f, args, rfl, -, hargs⟩ := h
  exact .call hargs

namespace Statement

theorem flatten_eq (h : Statement Target Value Called c) : c.flatten = [c] := by
  cases h <;> rfl

theorem isNode (h : Statement Target Value Called c) : c.isNode = true := by
  cases h <;> rfl

theorem flat (h : ∀ c ∈ body, Statement Target Value Called c) : Flat body :=
  fun c hc => (h c hc).flatten_eq

/-! ## Returns -/

/-- What holds of both branches of a choice. -/
def Branches (P : List Code → Prop) : Code → Prop
  | .cond _ _ (.block _ a) (.block _ b) => P a ∧ P b
  | _ => True

/-- Making returns normal leaves statements. -/
def Normal (Target Value Called : Code → Prop) (body : List Code) : Prop :=
  ∀ items, normalItems body = .ok items → ∀ c ∈ items, Statement Target Value Called c

theorem normalReturns_eq_ok {r : Option Origin} (hbody : Normal Target Value Called body)
    (h : normalReturns (.block r body) = .ok c) :
    ∃ items, c = .block r items ∧ ∀ c ∈ items, Statement Target Value Called c := by
  rw [normalReturns] at h
  obtain ⟨items, hitems, h₁⟩ := bind_eq_ok_iff.1 h
  obtain ⟨_, -, h₂⟩ := bind_eq_ok_iff.1 h₁
  have hstmts := hbody items hitems
  rw [(flat hstmts).mkBlock] at h₂
  exact ⟨items, (Except.ok.inj h₂).symm, hstmts⟩

theorem normal_of_branches (h : ∀ c ∈ body, Statement Target Value Called c ∧
    Branches (Normal Target Value Called) c) : Normal Target Value Called body := by
  induction body with
  | nil =>
    intro items hitems
    cases hitems
    simp
  | cons c rest ih =>
    intro items hitems
    rw [forall_mem_cons] at h
    obtain ⟨⟨hc, hbranches⟩, hrest⟩ := h
    have hnext : ∀ items, (do let more ← normalItems rest; return c :: more) = Except.ok items →
        ∀ d ∈ items, Statement Target Value Called d := by
      intro items h'
      obtain ⟨more, hmore, hpure⟩ := bind_eq_ok_iff.1 h'
      cases hpure
      exact forall_mem_cons.2 ⟨hc, ih hrest more hmore⟩
    cases hc with
    | pass | assign | assignCall | bareCall =>
      rw [normalItems] at hitems
      · exact hnext items hitems
      all_goals simp
    | ret hv =>
      cases hitems
      exact forall_mem_singleton.2 (.ret hv)
    | bareRet =>
      cases hitems
      exact forall_mem_singleton.2 .bareRet
    | @cond r t ra a rb b ht ha hb =>
      rw [normalItems] at hitems
      obtain ⟨a', ha', h₁⟩ := bind_eq_ok_iff.1 hitems
      obtain ⟨b', hb', h₂⟩ := bind_eq_ok_iff.1 h₁
      obtain ⟨_, -, h₃⟩ := bind_eq_ok_iff.1 h₂
      obtain ⟨as, rfl, has⟩ := normalReturns_eq_ok hbranches.1 ha'
      obtain ⟨bs, rfl, hbs⟩ := normalReturns_eq_ok hbranches.2 hb'
      split at h₃
      · cases h₃
        exact forall_mem_singleton.2 (.cond ht has hbs)
      · split at h₃
        · obtain ⟨_, -, h₄⟩ := bind_eq_ok_iff.1 h₃
          cases h₄
        · obtain ⟨more, hmore, h₄⟩ := bind_eq_ok_iff.1 h₃
          cases h₄
          exact forall_mem_cons.2 ⟨.cond ht has hbs, ih hrest more hmore⟩

theorem branches_normal (h : Statement Target Value Called c) :
    Branches (Normal Target Value Called) c := by
  induction h with
  | pass | assign | assignCall | ret | bareRet | bareCall => trivial
  | cond ht ha hb iha ihb =>
    exact ⟨normal_of_branches fun c hc => ⟨ha c hc, iha c hc⟩,
      normal_of_branches fun c hc => ⟨hb c hc, ihb c hc⟩⟩

/-- The statements of a body stay statements when its returns are made normal. -/
theorem normalItems_eq_ok (h : ∀ c ∈ body, Statement Target Value Called c)
    (hitems : normalItems body = .ok items) : ∀ c ∈ items, Statement Target Value Called c :=
  normal_of_branches (fun c hc => ⟨h c hc, (h c hc).branches_normal⟩) items hitems

/-! ## Substitution -/

/-- Names are replaced in such a way that what satisfies `P` still does. -/
def Keeps (m : Substitution) (P : Code → Prop) : Prop := ∀ c c', P c → c.subst m = .ok c' → P c'

theorem substAll_eq_ok {P : Code → Prop} {cs cs' : List Code}
    (h : ∀ c ∈ cs, ∀ c', c.subst m = .ok c' → P c') (hcs : substAll m cs = .ok cs') :
    ∀ c ∈ cs', P c := by
  induction cs generalizing cs' with
  | nil =>
    cases hcs
    simp
  | cons c cs ih =>
    rw [forall_mem_cons] at h
    obtain ⟨d, ds, hd, hds, rfl⟩ := substAll_cons_eq_ok hcs
    exact forall_mem_cons.2 ⟨h.1 d hd, ih h.2 hds⟩

theorem subst (ht : Keeps m Target) (hv : Keeps m Value) (hcall : Keeps m Called)
    (h : Statement Target Value Called c) (hc : c.subst m = .ok c') :
    Statement Target Value Called c' := by
  induction h generalizing c' with
  | pass =>
    obtain rfl := subst_pass_eq_ok hc
    exact .pass
  | assign ht' hv' =>
    obtain ⟨t, v, htarget, hvalue, rfl⟩ := subst_assign_parts hc
    exact .assign (ht _ _ ht' htarget) (hv _ _ hv' hvalue)
  | assignCall ht' hc' =>
    obtain ⟨t, v, htarget, hvalue, rfl⟩ := subst_assign_parts hc
    exact .assignCall (ht _ _ ht' htarget) (hcall _ _ hc' hvalue)
  | cond ht' ha hb iha ihb =>
    obtain ⟨t, _, _, htest, hthen, helse, rfl⟩ := subst_cond_eq_ok hc
    obtain ⟨as, has, rfl⟩ := subst_block_eq_ok (fun c hc => (ha c hc).isNode) hthen
    obtain ⟨bs, hbs, rfl⟩ := subst_block_eq_ok (fun c hc => (hb c hc).isNode) helse
    have hastmts := substAll_eq_ok (fun c hc _ => iha c hc) has
    have hbstmts := substAll_eq_ok (fun c hc _ => ihb c hc) hbs
    rw [(flat hastmts).mkBlock, (flat hbstmts).mkBlock]
    exact .cond (hv _ _ ht' htest) hastmts hbstmts
  | ret hv' =>
    obtain ⟨v, hvalue, rfl⟩ := subst_ret_eq_ok hc
    exact .ret (hv _ _ hv' hvalue)
  | bareRet =>
    obtain ⟨v, hvalue, rfl⟩ := subst_ret_eq_ok hc
    cases hvalue
    exact .bareRet
  | bareCall hc' =>
    obtain ⟨v, hvalue, rfl⟩ := subst_bareCall_eq_ok hc
    exact .bareCall (hcall _ _ hc' hvalue)

end Statement

end Code

end DataDiagram
