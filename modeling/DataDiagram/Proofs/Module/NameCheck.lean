import DataDiagram.Proofs.Module.Graph
/-!
# What the check of names finds

The check goes over the nodes of a function in the order in which they stand, a node before what is
in it, and stops at the first one that breaks a rule: a name that the function does not see, or an
assignment to an argument.
-/

namespace DataDiagram

open List

namespace Code

mutual

/-- The nodes of a piece of code, each before what is in it. -/
def nodes : Code → List Code
  | datum d => [datum d]
  | pass r => [pass r]
  | bare r kind => [bare r kind]
  | name r id => [name r id]
  | tuple items => tuple items :: nodesAll items
  | block r body => block r body :: nodesAll body
  | const r v => const r v :: nodes v
  | ret r v => ret r v :: nodes v
  | bareCall r v => bareCall r v :: nodes v
  | op r v w => op r v w :: (nodes v ++ nodes w)
  | attr r v w => attr r v w :: (nodes v ++ nodes w)
  | item r v w => item r v w :: (nodes v ++ nodes w)
  | call r v w => call r v w :: (nodes v ++ nodes w)
  | assign r u v w => assign r u v w :: (nodes u ++ (nodes v ++ nodes w))
  | cond r u v w => cond r u v w :: (nodes u ++ (nodes v ++ nodes w))
  | cls r u v w => cls r u v w :: (nodes u ++ (nodes v ++ nodes w))
  | var r n t s i => var r n t s i :: (nodes n ++ (nodes t ++ (nodes s ++ nodes i)))
  | func r n as b gs ls =>
    func r n as b gs ls :: (nodes n ++ (nodes as ++ (nodes b ++ (nodes gs ++ nodes ls))))

/-- The nodes of some pieces of code. -/
def nodesAll : List Code → List Code
  | [] => []
  | c :: rest => nodes c ++ nodesAll rest

end

def isFunc : Code → Bool
  | func .. => true
  | _ => false

/-- The rule that a node breaks by itself, whatever is in it. -/
def offence? (args vars : List String) : Code → Option String
  | name _ id => if id.isAmong args || id.isAmong vars then none else some "not a (visible) name"
  | assign _ t _ _ => if t.targets args then some "cannot assign parameter" else none
  | _ => none

/-- The check of one node. -/
def checkNode (args vars : List String) (c : Code) : Except CodeError Unit :=
  match c.offence? args vars with
  | none => .ok ()
  | some message => .error (c.error message)

attribute [local simp] nodes nodesAll checkNames checkNamesAll

variable {args vars : List String} {c : Code}

mutual

/-- The check of names is the check of one node after the other. -/
theorem checkNames_eq_forM : ∀ c : Code, (∀ n ∈ c.nodes, n.isFunc = false) →
    checkNames args vars c = forM c.nodes (checkNode args vars)
  | datum _, _ | pass _, _ | bare .., _ => rfl
  | name r id, _ => by
    simp only [checkNames, nodes, forM_cons, checkNode, offence?]
    split <;> rfl
  | tuple items, h => by
    rw [nodes, forall_mem_cons] at h
    exact checkNamesAll_eq_forM items h.2
  | block _ body, h => by
    rw [nodes, forall_mem_cons] at h
    exact checkNamesAll_eq_forM body h.2
  | const _ v, h | ret _ v, h | bareCall _ v, h => by
    rw [nodes, forall_mem_cons] at h
    exact checkNames_eq_forM v h.2
  | op _ v w, h | attr _ v w, h | item _ v w, h | call _ v w, h => by
    simp only [nodes, forall_mem_cons, forall_mem_append] at h
    rw [checkNames, nodes, forM_cons, forM_append, ← checkNames_eq_forM v h.2.1,
      ← checkNames_eq_forM w h.2.2]
    rfl
  | assign r u v w, h => by
    simp only [nodes, forall_mem_cons, forall_mem_append] at h
    rw [checkNames, nodes, forM_cons, forM_append, forM_append,
      ← checkNames_eq_forM u h.2.1, ← checkNames_eq_forM v h.2.2.1, ← checkNames_eq_forM w h.2.2.2,
      checkNode, offence?]
    split <;> rfl
  | cond _ u v w, h | cls _ u v w, h => by
    simp only [nodes, forall_mem_cons, forall_mem_append] at h
    rw [checkNames, nodes, forM_cons, forM_append, forM_append,
      ← checkNames_eq_forM u h.2.1, ← checkNames_eq_forM v h.2.2.1, ← checkNames_eq_forM w h.2.2.2]
    rfl
  | var _ n t s i, h => by
    simp only [nodes, forall_mem_cons, forall_mem_append] at h
    rw [checkNames, nodes, forM_cons, forM_append, forM_append, forM_append,
      ← checkNames_eq_forM n h.2.1, ← checkNames_eq_forM t h.2.2.1,
      ← checkNames_eq_forM s h.2.2.2.1, ← checkNames_eq_forM i h.2.2.2.2]
    rfl
  | func .., h => nomatch h _ mem_cons_self

theorem checkNamesAll_eq_forM : ∀ cs : List Code, (∀ n ∈ nodesAll cs, n.isFunc = false) →
    checkNamesAll args vars cs = forM (nodesAll cs) (checkNode args vars)
  | [], _ => rfl
  | c :: rest, h => by
    rw [nodesAll, forall_mem_append] at h
    rw [checkNamesAll, nodesAll, forM_append, ← checkNames_eq_forM c h.1,
      ← checkNamesAll_eq_forM rest h.2]

end

/-- What the rules ask of a node: a name is one that is seen, and no argument is assigned to. -/
def Allowed (args vars : List String) (c : Code) : Prop :=
  (∀ r id, c = name r id → ∃ x, id = text x ∧ (x ∈ args ∨ x ∈ vars)) ∧
    ∀ r s x v o, c = assign r (nameOf s x) v o → x ∉ args

theorem isAmong_iff {id : Code} {names : List String} :
    id.isAmong names = true ↔ ∃ x, id = text x ∧ x ∈ names := by
  unfold isAmong
  split
  · simp
  · next h =>
    refine iff_of_false Bool.false_ne_true ?_
    rintro ⟨x, hx, -⟩
    exact h x hx

theorem offence?_eq_none_iff : c.offence? args vars = none ↔ c.Allowed args vars := by
  unfold offence?
  split
  · simp only [Allowed, ite_eq_left_iff, reduceCtorEq, imp_false, Bool.or_eq_true, isAmong_iff]
    grind
  · simp only [Allowed, ite_eq_right_iff, reduceCtorEq, imp_false, targets_iff]
    constructor
    · refine fun h => ⟨fun _ _ heq => (by cases heq), fun _ s x _ _ heq hx => h ⟨x, ?_, hx⟩⟩
      cases heq
      exact mem_singleton_self x
    · rintro ⟨-, h⟩ ⟨x, hx, hargs⟩
      unfold whole texts at hx
      split at hx
      · split at hx
        · cases mem_singleton.1 hx
          exact h _ _ _ _ _ rfl hargs
        · cases hx
      · cases hx
  · next hname hassign =>
    exact ⟨fun _ => ⟨fun r id h => (hname r id h).elim,
      fun r s x v o h => (hassign r _ v o h).elim⟩,
      fun _ => rfl⟩

/-- Only names and assignments break rules. -/
theorem kind_of_offence? {message : String} (h : c.offence? args vars = some message) :
    (∃ r id, c = name r id) ∨ ∃ r t v o, c = assign r t v o := by
  unfold offence? at h
  split at h
  · exact .inl ⟨_, _, rfl⟩
  · exact .inr ⟨_, _, _, _, rfl⟩
  · exact nomatch h

theorem checkNode_eq_ok_iff : c.checkNode args vars = .ok () ↔ c.Allowed args vars := by
  rw [← offence?_eq_none_iff, checkNode]
  split <;> simp [*]

end Code

open Code

/-- Going over a list ends well, or stops at the first element that fails. -/
theorem forM_ok_or_first {ε α : Type} (f : α → Except ε Unit) (as : List α) :
    forM as f = .ok () ∧ (∀ a ∈ as, f a = .ok ()) ∨
      ∃ before a after e, as = before ++ a :: after ∧ (∀ b ∈ before, f b = .ok ()) ∧
      f a = .error e ∧
        forM as f = .error e := by
  induction as with
  | nil => exact .inl ⟨rfl, nofun⟩
  | cons a as ih =>
    rw [forM_cons]
    cases ha : f a with
    | error e => exact .inr ⟨[], a, as, e, rfl, nofun, ha, rfl⟩
    | ok =>
      refine ih.imp (fun ⟨h, hall⟩ => ⟨h, forall_mem_cons.2 ⟨ha, hall⟩⟩) ?_
      rintro ⟨before, b, after, e, rfl, hbefore, hb, h⟩
      exact ⟨a :: before, b, after, e, rfl, forall_mem_cons.2 ⟨ha, hbefore⟩, hb, h⟩

namespace Func

variable {f : Func}

/-- A node of a function that breaks no rule. -/
def Allows (f : Func) : Code → Prop := Code.Allowed f.args ((f.globals ++ f.locals).map Var.name)

/-- A function whose body is a sequence of code that holds no function, with places in a source for
all names and assignments. -/
structure Checkable (f : Func) : Prop where
  body : (∃ cs, f.body = .tuple cs) ∨ ∃ r cs, f.body = .block r cs
  isFunc : ∀ n ∈ f.body.nodes, n.isFunc = false
  placed : ∀ n ∈ f.body.nodes, (∃ r id, n = .name r id) ∨ (∃ r t v o, n = .assign r t v o) →
    n.Placed

theorem Checkable.checkNames_eq_forM (h : f.Checkable) :
    f.checkNames = forM f.body.nodes (checkNode f.args ((f.globals ++ f.locals).map Var.name)) := by
  have hfunc := h.isFunc
  unfold checkNames
  obtain ⟨cs, hbody⟩ | ⟨r, cs, hbody⟩ := h.body <;> rw [hbody] at hfunc ⊢ <;>
    rw [nodes, forall_mem_cons] at hfunc <;> exact checkNamesAll_eq_forM cs hfunc.2

/-- The check of a function ends well, or stops at its first node that breaks a rule. -/
theorem Checkable.checkNames_ok_or_first (h : f.Checkable) :
    f.checkNames = .ok () ∧ (∀ n ∈ f.body.nodes, f.Allows n) ∨
      ∃ before n after, f.body.nodes = before ++ n :: after ∧ (∀ n ∈ before, f.Allows n) ∧
      ¬ f.Allows n ∧
        ∃ message, n.offence? f.args ((f.globals ++ f.locals).map Var.name) = some message ∧
          f.checkNames = .error (n.error message) := by
  rw [h.checkNames_eq_forM]
  rcases forM_ok_or_first (checkNode f.args ((f.globals ++ f.locals).map Var.name)) f.body.nodes
    with
    ⟨hok, hall⟩ | ⟨before, n, after, e, hnodes, hbefore, hn, herror⟩
  · exact .inl ⟨hok, fun n hn => checkNode_eq_ok_iff.1 (hall n hn)⟩
  · refine .inr ⟨before, n, after, hnodes, fun n hn => checkNode_eq_ok_iff.1 (hbefore n hn), ?_⟩
    rw [herror]
    unfold checkNode at hn
    split at hn
    · exact nomatch hn
    · next message hmessage =>
      refine ⟨fun hallows => ?_, message, hmessage, hn.symm⟩
      cases (offence?_eq_none_iff.2 hallows).symm.trans hmessage

end Func

namespace Module

variable {m : Module}

/-- The check of names succeeds if every function keeps to the rules; otherwise it reports the first
node that breaks one, at the place where this node stands. -/
theorem checkNames_exact (h : ∀ f ∈ m.functions, f.Checkable) :
    (m.checkNames = .ok () ↔ ∀ f ∈ m.functions, ∀ n ∈ f.body.nodes, f.Allows n) ∧
      (m.checkNames ≠ .ok () → ∃ fs f gs before n after message o p line,
        m.functions = fs ++ f :: gs ∧ (∀ g ∈ fs, ∀ n ∈ g.body.nodes, g.Allows n) ∧
        f.body.nodes = before ++ n :: after ∧ (∀ n ∈ before, f.Allows n) ∧ ¬ f.Allows n ∧
        n.offence? f.args ((f.globals ++ f.locals).map Var.name) = some message ∧
        n.ref = some o ∧ o.position = some p ∧ Origin.lineAt? o.lines p.line = some line ∧
        m.checkNames = .error (.located ⟨message, o.file, p.line, p.column, some line⟩)) := by
  have hfunc : ∀ f ∈ m.functions, f.checkNames = .ok () → ∀ n ∈ f.body.nodes, f.Allows n := by
    intro f hf hok
    rcases (h f hf).checkNames_ok_or_first with ⟨-, hall⟩ | ⟨_, _, _, _, _, _, _, _, herror⟩
    · exact hall
    · exact nomatch hok.symm.trans herror
  rcases forM_ok_or_first Func.checkNames m.functions with
    ⟨hok, hall⟩ | ⟨fs, f, gs, e, hfs, hbefore, hf, herror⟩
  · exact ⟨iff_of_true hok fun f hf => hfunc f hf (hall f hf), absurd hok⟩
  · have hmem : f ∈ m.functions := by simp [hfs]
    rcases (h f hmem).checkNames_ok_or_first with
      ⟨hok, -⟩ | ⟨before, n, after, hnodes, hpre, hn, message, hmessage, herror'⟩
    · exact nomatch hok.symm.trans hf
    · have hn' : n ∈ f.body.nodes := by simp [hnodes]
      obtain ⟨o, p, line, hr, hp, hline⟩ := (h f hmem).placed n hn' (kind_of_offence? hmessage)
      have hfs' : ∀ g ∈ fs, g ∈ m.functions := fun g hg => by simp [hfs, hg]
      have hne : m.checkNames ≠ .ok () := fun hok => nomatch hok.symm.trans herror
      refine ⟨iff_of_false hne fun hall => hn (hall f hmem n hn'), fun _ => ?_⟩
      refine ⟨fs, f, gs, before, n, after, message, o, p, line, hfs,
        fun g hg => hfunc g (hfs' g hg) (hbefore g hg), hnodes, hpre, hn, hmessage, hr, hp,
          hline, ?_⟩
      cases hf.symm.trans herror'
      refine herror.trans ?_
      rw [Code.error, hr]
      simp only [Origin.error, hp, hline]

/-- An argument is assigned to: the assignment is reported, and not the unknown name in it. -/
theorem checkNames_exact_assign :
    let place := fun column => some (⟨"m.py", ["a = b"], some ⟨1, column⟩⟩ : Origin)
    let body := assign (place 0) (nameOf (place 0) "a") (nameOf (place 4) "b") nothing
    let m : Module := ⟨[], [], [⟨none, "f", ["a"], .tuple [body], [], []⟩]⟩
    (∀ f ∈ m.functions, f.Checkable) ∧
      m.checkNames = .error (.located ⟨"cannot assign parameter", "m.py", 1, 0, some "a = b"⟩) ∧
      ¬ ∀ f ∈ m.functions, ∀ n ∈ f.body.nodes, f.Allows n := by
  intro place body m
  have hcheck : ∀ f ∈ m.functions, f.Checkable := by
    refine forall_mem_singleton.2 ⟨.inl ⟨_, rfl⟩, by decide, fun n hn hkind => ?_⟩
    have hnodes : n ∈ [tuple [body], body, nameOf (place 0) "a", nameOf (place 4) "b", nothing] :=
      hn
    simp only [mem_cons, not_mem_nil, or_false] at hnodes
    rcases hnodes with rfl | rfl | rfl | rfl | rfl
    · rcases hkind with ⟨_, _, h⟩ | ⟨_, _, _, _, h⟩ <;> exact nomatch h
    · exact ⟨_, _, _, rfl, rfl, rfl⟩
    · exact ⟨_, _, _, rfl, rfl, rfl⟩
    · exact ⟨_, _, _, rfl, rfl, rfl⟩
    · rcases hkind with ⟨_, _, h⟩ | ⟨_, _, _, _, h⟩ <;> exact nomatch h
  have herror : m.checkNames =
      .error (.located ⟨"cannot assign parameter", "m.py", 1, 0, some "a = b"⟩) := by
    cbv
  refine ⟨hcheck, herror, fun hall => ?_⟩
  cases ((checkNames_exact hcheck).1.2 hall).symm.trans herror

end Module

end DataDiagram
