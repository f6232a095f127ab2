import DataDiagram.Code.Same
import DataDiagram.Proofs.Code.Shape
/-!
# Binding and substitution

Binding replaces parameters as substitution does, except at names that it takes for part of a
target: the name at the base of what is assigned to, and the name at the base of a field that is
read as a whole value or as a whole index.  There the two agree only if the name stays what it is.
-/

namespace DataDiagram

open List

namespace Code

/-- The names that binding leaves alone. -/
def kept : BindMode → Code → List Code
  | .usual, assign _ t v _ => kept .target t ++ kept .usual v
  | mode, attr _ v _ => kept (if mode == .usual then .target else mode) v
  | mode, item _ v i => kept (if mode == .usual then .value else mode) v ++ kept .usual i
  | .target, name r id => [name r id]
  | _, _ => []

/-- An expression with origins in which fields and elements are those of something that can be
assigned to. -/
inductive Rooted : Code → Prop
  | const {o d} : Rooted (constOf (some o) d)
  | name {o x} : Rooted (nameOf (some o) x)
  | op {o symbol operands} (h : ∀ c ∈ operands, Rooted c) : Rooted (opOf (some o) symbol operands)
  | attr {o v field} (hbase : v.isLookup = true) (hv : Rooted v) : Rooted (attrOf (some o) v field)
  | item {o v i} (hbase : v.isLookup = true) (hv : Rooted v) (hi : Rooted i) :
    Rooted (.item (some o) v i)
  | call {o f args} (h : ∀ a ∈ args, Rooted a) : Rooted (callOf (some o) f args)

/-- A statement with origins that is made of such expressions. -/
inductive RootedStatement : Code → Prop
  | pass {o} : RootedStatement (.pass (some o))
  | assign {o t v aug} (htarget : t.isLookup = true) (ht : Rooted t) (hv : Rooted v) :
    RootedStatement (.assign (some o) t v (ofText? aug))
  | cond {o t oa a ob b} (ht : Rooted t) (ha : ∀ c ∈ a, RootedStatement c)
    (hb : ∀ c ∈ b, RootedStatement c) :
    RootedStatement (.cond (some o) t (.block (some oa) a) (.block (some ob) b))
  | ret {o v} (hv : Rooted v) : RootedStatement (.ret (some o) v)
  | bareRet {o} : RootedStatement (.ret (some o) nothing)
  | bareCall {o r f args} (hc : Rooted (callOf r f args)) :
    RootedStatement (.bareCall (some o) (callOf r f args))

variable {m : Substitution} {c : Code} {cs : List Code}

theorem Rooted.isNode (h : Rooted c) : c.isNode = true := by
  cases h <;> rfl

theorem RootedStatement.isNode (h : RootedStatement c) : c.isNode = true := by
  cases h <;> rfl

/-! ## Substitution succeeds -/

theorem exists_substItems (hnode : ∀ c ∈ cs, c.isNode = true)
    (h : ∀ c ∈ cs, ∃ d, c.subst m = .ok d) :
    ∃ ds, substItems m cs = .ok ds := by
  rw [substItems_eq_substAll m hnode]
  induction cs with
  | nil => exact ⟨[], rfl⟩
  | cons c cs ih =>
    rw [forall_mem_cons] at hnode h
    obtain ⟨d, hd⟩ := h.1
    obtain ⟨ds, hds⟩ := ih hnode.2 h.2
    exact ⟨d :: ds, by rw [substAll, requireNode, hnode.1, hd, hds]; rfl⟩

theorem Rooted.exists_subst (hm : ∀ x a, m x = some a → Expression true a) (h : Rooted c) :
    ∃ d, c.subst m = .ok d := by
  induction h with
  | const => exact ⟨_, rfl⟩
  | @name o x =>
    rw [subst, substName]
    cases hx : m x with
    | none => exact ⟨_, rfl⟩
    | some a =>
      refine ⟨a, ?_⟩
      cases hm x a hx <;> rfl
  | op hops ih =>
    obtain ⟨ds, hds⟩ := exists_substItems (fun c hc => (hops c hc).isNode) ih
    exact ⟨_, by rw [subst, subst, subst, hds]; rfl⟩
  | attr _ _ ih =>
    obtain ⟨d, hd⟩ := ih
    exact ⟨_, by rw [subst, hd]; rfl⟩
  | item _ _ _ ihv ihi =>
    obtain ⟨d, hd⟩ := ihv
    obtain ⟨i, hi⟩ := ihi
    exact ⟨_, by rw [subst, hd, hi]; rfl⟩
  | call hargs ih =>
    obtain ⟨ds, hds⟩ := exists_substItems (fun c hc => (hargs c hc).isNode) ih
    exact ⟨_, by rw [subst, subst, subst, hds]; rfl⟩

theorem RootedStatement.exists_subst (hm : ∀ x a, m x = some a → Expression true a)
    (h : RootedStatement c) : ∃ d, c.subst m = .ok d := by
  induction h with
  | pass | bareRet => exact ⟨_, rfl⟩
  | assign _ ht hv =>
    obtain ⟨t, ht⟩ := ht.exists_subst hm
    obtain ⟨v, hv⟩ := hv.exists_subst hm
    exact ⟨_, by rw [subst, ht, hv, subst_ofText?]; rfl⟩
  | cond ht ha hb iha ihb =>
    obtain ⟨t, ht⟩ := ht.exists_subst hm
    obtain ⟨as, has⟩ := exists_substItems (fun c hc => (ha c hc).isNode) iha
    obtain ⟨bs, hbs⟩ := exists_substItems (fun c hc => (hb c hc).isNode) ihb
    exact ⟨_, by rw [subst, subst, subst, ht, has, hbs]; rfl⟩
  | ret hv =>
    obtain ⟨v, hv⟩ := hv.exists_subst hm
    exact ⟨_, by rw [subst, hv]; rfl⟩
  | bareCall hc =>
    obtain ⟨d, hd⟩ := hc.exists_subst hm
    exact ⟨_, by rw [subst, hd]; rfl⟩

/-! ## Agreement -/

/-- Binding and substitution succeed, and have the same outcome exactly if the names that binding
leaves alone stay what they are.  If they have the same outcome up to origins, so do these names. -/
def Agree (m : Substitution) (mode : BindMode) (c : Code) : Prop :=
  ∃ d d', c.bind m mode = .ok d ∧ c.subst m = .ok d' ∧
    (d = d' ↔ ∀ n ∈ c.kept mode, n.subst m = .ok n) ∧
    (d.same d' = true → ∀ n ∈ c.kept mode, ∃ n', n.subst m = .ok n' ∧ n.same n' = true)

theorem Agree.of_bind_eq {mode : BindMode} (hbind : c.bind m mode = c.subst m)
    (hkept : c.kept mode = []) (h : ∃ d, c.subst m = .ok d) : Agree m mode c := by
  obtain ⟨d, hd⟩ := h
  refine ⟨d, d, hbind.trans hd, hd, ?_, fun _ => ?_⟩
  · rw [hkept]
    exact ⟨fun _ => forall_mem_nil _, fun _ => rfl⟩
  · rw [hkept]
    exact forall_mem_nil _

/-- Binding and substitution agree on a field if they do on its base. -/
theorem Agree.attr {mode mode' : BindMode} {o : Origin} {v : Code} {field : String}
    (hmode : mode' = if mode == .usual then .target else mode) (h : Agree m mode' v) :
    Agree m mode (attrOf (some o) v field) := by
  obtain ⟨d, d', hbind, hsubst, heq, hsame⟩ := h
  subst hmode
  refine ⟨attrOf (some o) d field, attrOf (some o) d' field, ?_, ?_, ?_, fun hsame' => ?_⟩
  · rw [Code.bind, hbind]
    rfl
  · rw [subst, hsubst]
    rfl
  · rw [kept, ← heq]
    simp
  · rw [same, Bool.and_eq_true] at hsame'
    rw [kept]
    exact hsame hsame'.1

theorem Agree.item {mode mode' : BindMode} {o : Origin} {v i : Code}
    (hmode : mode' = if mode == .usual then .value else mode) (hv : Agree m mode' v)
    (hi : Agree m .usual i) : Agree m mode (.item (some o) v i) := by
  obtain ⟨d, d', hbind, hsubst, heq, hsame⟩ := hv
  obtain ⟨e, e', hbind', hsubst', heq', hsame'⟩ := hi
  subst hmode
  refine ⟨.item (some o) d e, .item (some o) d' e', ?_, ?_, ?_, fun h => ?_⟩
  · rw [Code.bind, hbind, hbind']
    rfl
  · rw [subst, hsubst, hsubst']
    rfl
  · rw [kept, forall_mem_append, ← heq, ← heq']
    simp
  · rw [same, Bool.and_eq_true] at h
    rw [kept, forall_mem_append]
    exact ⟨hsame h.1, hsame' h.2⟩

/-- Expressions are bound as their kind has it, and what can be assigned to in any way. -/
theorem Rooted.agree (hm : ∀ x a, m x = some a → Expression true a) (h : Rooted c) :
    Agree m .usual c ∧ (c.isLookup = true → ∀ mode, Agree m mode c) := by
  have hsubst := h.exists_subst hm
  induction h with
  | const | op | call => exact ⟨.of_bind_eq rfl rfl hsubst, fun hlookup => nomatch hlookup⟩
  | @name o x =>
    refine ⟨.of_bind_eq rfl rfl hsubst, fun _ mode => ?_⟩
    cases mode with
    | value | usual => exact .of_bind_eq rfl rfl hsubst
    | target =>
      obtain ⟨d, hd⟩ := hsubst
      refine ⟨_, d, rfl, hd, ?_, fun hsame n hn => ?_⟩
      · rw [kept, forall_mem_singleton, hd, Except.ok.injEq, eq_comm]
      · obtain rfl := mem_singleton.1 hn
        exact ⟨d, hd, hsame⟩
  | attr hbase hv ih =>
    have hall := (ih (hv.exists_subst hm)).2 hbase
    exact ⟨.attr rfl (hall _), fun _ mode => .attr rfl (hall _)⟩
  | item hbase hv hi ihv ihi =>
    have hall := (ihv (hv.exists_subst hm)).2 hbase
    have hindex := (ihi (hi.exists_subst hm)).1
    exact ⟨.item rfl (hall _) hindex, fun _ mode => .item rfl (hall _) hindex⟩

/-- Binding parameters to expressions in a statement has the outcome of substitution exactly if the
names that it leaves alone, those at the base of a target or of a field that is read by itself, are
not replaced.  In a statement that is no assignment there are none. -/
theorem bind_eq_subst_iff (hm : ∀ x a, m x = some a → Expression true a) (h : RootedStatement c) :
    Agree m .usual c ∧ ((∀ r t v o, c ≠ .assign r t v o) → c.bind m .usual = c.subst m) := by
  have hsubst := h.exists_subst hm
  cases h with
  | pass | cond | ret | bareRet | bareCall => exact ⟨.of_bind_eq rfl rfl hsubst, fun _ => rfl⟩
  | @assign o t v aug htarget ht hv =>
    refine ⟨?_, fun hne => absurd rfl (hne _ _ _ _)⟩
    obtain ⟨d, d', hbind, hsubst, heq, hsame⟩ := (ht.agree hm).2 htarget .target
    obtain ⟨e, e', hbind', hsubst', heq', hsame'⟩ := (hv.agree hm).1
    refine ⟨.assign (some o) d e (ofText? aug), .assign (some o) d' e' (ofText? aug), ?_, ?_, ?_,
      fun h => ?_⟩
    · rw [Code.bind, hbind, hbind']
      rfl
    · rw [subst, hsubst, hsubst', subst_ofText?]
      rfl
    · rw [kept, forall_mem_append, ← heq, ← heq']
      simp
    · rw [same, Bool.and_eq_true, Bool.and_eq_true] at h
      rw [kept, forall_mem_append]
      exact ⟨hsame h.1.1, hsame' h.1.2⟩

section Sample

def bindingOrigin : Origin := ⟨"", [], none⟩

/-- The variable of a name. -/
def bindingName (x : String) : Code := nameOf (some bindingOrigin) x

/-- The parameter `p` is bound to the variable `q`. -/
def bindingMap : Substitution := fun x => if x = "p" then some (bindingName "q") else none

def bindingAssign (v : Code) : Code := .assign (some bindingOrigin) (bindingName "y") v nothing

theorem expression_bindingMap (x : String) (a : Code) (h : bindingMap x = some a) :
    Expression true a := by
  unfold bindingMap at h
  split at h
  · cases h
    exact .name
  · exact nomatch h

theorem rooted_bindingAssign {v : Code} (hv : Rooted v) : RootedStatement (bindingAssign v) := by
  have hplain : nothing = ofText? none := rfl
  rw [bindingAssign, hplain]
  exact .assign rfl .name hv

/-- A parameter is replaced as the base of an element and as its index. -/
theorem bind_eq_subst_iff_item :
    RootedStatement
    (bindingAssign (.item (some bindingOrigin) (bindingName "p") (bindingName "p"))) ∧
    (bindingAssign (.item (some bindingOrigin) (bindingName "p") (bindingName "p"))).bind
        bindingMap .usual =
      .ok (bindingAssign (.item (some bindingOrigin) (bindingName "q") (bindingName "q"))) ∧
    Agree bindingMap .usual
      (bindingAssign (.item (some bindingOrigin) (bindingName "p") (bindingName "p"))) :=
  have hrooted := rooted_bindingAssign (.item rfl .name .name)
  ⟨hrooted, rfl, (bind_eq_subst_iff expression_bindingMap hrooted).1⟩

/-- A parameter is not replaced as the base of a field that is read. -/
theorem bind_field_left_alone :
    RootedStatement (bindingAssign (attrOf (some bindingOrigin) (bindingName "p") "x")) ∧
    bindingMap "y" = none ∧ ∃ d d',
    (bindingAssign (attrOf (some bindingOrigin) (bindingName "p") "x")).bind bindingMap .usual =
    .ok d ∧
    (bindingAssign (attrOf (some bindingOrigin) (bindingName "p") "x")).subst bindingMap = .ok d' ∧
    d.same d' = false :=
  ⟨rooted_bindingAssign (.attr rfl .name), rfl, _, _, rfl, rfl, by cbv⟩

end Sample

end Code

end DataDiagram
