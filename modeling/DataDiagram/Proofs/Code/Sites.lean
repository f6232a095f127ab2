import DataDiagram.Module.Calls
import DataDiagram.Proofs.Code.Shape
/-!
# Call sites

The calls that are looked at when calls are followed, in the order in which they are met, each with
whether it stands under an operator.  Following the calls of a statement is following its call sites
one after the other.
-/

namespace DataDiagram

open List

/-- A call: whether it stands under an operator, its node, and what it calls. -/
structure CallSite where
  underOp : Bool
  node : Code
  callee : Code

namespace CallSite

variable {follow follow' : Follow} {stack : List String} {names : List Datum}
  {ss ts : List CallSite}

/-- Follows a call; under an operator it is refused. -/
def visit (follow : Follow) (stack : List String) (s : CallSite) : Except CodeError (List Datum) :=
  (bif s.underOp then refuseCall else follow) stack s.node s.callee

def visitAll (follow : Follow) (stack : List String) :
    List CallSite → Except CodeError (List Datum)
  | [] => .ok []
  | s :: rest => do return (← s.visit follow stack) ++ (← visitAll follow stack rest)

theorem visitAll_append (ss ts : List CallSite) : visitAll follow stack (ss ++ ts) =
    (do return (← visitAll follow stack ss) ++ (← visitAll follow stack ts)) := by
  induction ss with
  | nil =>
    rw [nil_append, visitAll]
    cases visitAll follow stack ts <;> rfl
  | cons s ss ih =>
    rw [cons_append, visitAll, visitAll, ih]
    cases s.visit follow stack with
    | error e => rfl
    | ok own =>
      cases visitAll follow stack ss with
      | error e => rfl
      | ok more =>
        cases visitAll follow stack ts with
        | error e => rfl
        | ok rest => exact congrArg Except.ok (append_assoc own more rest).symm

/-- What following some calls is made of: none of them is under an operator, and all of them are
followed. -/
theorem visitAll_eq_ok (h : visitAll follow stack ss = .ok names) :
    (∀ s ∈ ss, s.underOp = false ∧ ∃ own, follow stack s.node s.callee = .ok own) ∧
      ∀ n, n ∈ names ↔ ∃ s ∈ ss, ∃ own, follow stack s.node s.callee = .ok own ∧ n ∈ own := by
  induction ss generalizing names with
  | nil =>
    cases h
    simp
  | cons s ss ih =>
    simp only [visitAll, bind_eq_ok_iff] at h
    obtain ⟨own, hown, more, hmore, hpure⟩ := h
    cases hpure
    obtain ⟨hall, hmem⟩ := ih hmore
    have hop : s.underOp = false := by
      cases hop : s.underOp with
      | false => rfl
      | true =>
        rw [visit, hop] at hown
        exact nomatch hown
    rw [visit, hop] at hown
    refine ⟨forall_mem_cons.2 ⟨⟨hop, own, hown⟩, hall⟩, fun n => ?_⟩
    have hfirst : n ∈ own ↔ ∃ own', follow stack s.node s.callee = .ok own' ∧ n ∈ own' := by
      refine ⟨fun hn => ⟨own, hown, hn⟩, ?_⟩
      rintro ⟨own', hown', hn⟩
      cases hown.symm.trans hown'
      exact hn
    rw [mem_append, hmem, hfirst]
    simp only [mem_cons, exists_eq_or_imp]

theorem exists_visitAll_eq_ok
    (h : ∀ s ∈ ss, s.underOp = false ∧ ∃ own, follow stack s.node s.callee = .ok own) :
    ∃ names, visitAll follow stack ss = .ok names := by
  induction ss with
  | nil => exact ⟨[], rfl⟩
  | cons s ss ih =>
    rw [forall_mem_cons] at h
    obtain ⟨⟨hop, own, hown⟩, hrest⟩ := h
    obtain ⟨more, hmore⟩ := ih hrest
    refine ⟨own ++ more, ?_⟩
    rw [visitAll, visit, hop, cond_false, hown, hmore]
    rfl

theorem visitAll_congr
    (h : ∀ s ∈ ss, follow stack s.node s.callee = follow' stack s.node s.callee) :
    visitAll follow stack ss = visitAll follow' stack ss := by
  induction ss with
  | nil => rfl
  | cons s ss ih =>
    rw [forall_mem_cons] at h
    have hvisit : s.visit follow stack = s.visit follow' stack := by
      unfold visit
      cases s.underOp with
      | true => rfl
      | false => exact h.1
    rw [visitAll, visitAll, hvisit, ih h.2]

/-- What makes some calls fail is an operator above one of them, or one that cannot be followed. -/
theorem visitAll_eq_error {e : CodeError} (h : visitAll follow stack ss = .error e) :
    ∃ s ∈ ss, e = s.node.error "forbidden call in expression" ∨
      follow stack s.node s.callee = .error e := by
  induction ss with
  | nil => exact nomatch h
  | cons s ss ih =>
    rw [visitAll] at h
    cases hvisit : s.visit follow stack with
    | error e' =>
      rw [hvisit] at h
      cases h
      refine ⟨s, mem_cons_self, ?_⟩
      unfold visit at hvisit
      cases hop : s.underOp with
      | true =>
        rw [hop] at hvisit
        exact .inl (Except.error.inj hvisit).symm
      | false =>
        rw [hop] at hvisit
        exact .inr hvisit
    | ok own =>
      rw [hvisit] at h
      have hrest : visitAll follow stack ss = .error e := by
        cases hrest : visitAll follow stack ss with
        | error e' =>
          rw [hrest] at h
          exact h
        | ok more =>
          rw [hrest] at h
          exact nomatch h
      obtain ⟨s', hs', he⟩ := ih hrest
      exact ⟨s', mem_cons_of_mem s hs', he⟩

end CallSite

namespace Code

mutual

/-- The calls in a statement or an expression, those inside of arguments aside. -/
def sites (underOp : Bool) : Code → List CallSite
  | call r f args => [⟨underOp, call r f args, f⟩]
  | op _ _ operands => sites true operands
  | attr _ v _ | ret _ v | bareCall _ v => sites underOp v
  | item _ v w | assign _ v w _ => sites underOp v ++ sites underOp w
  | cond _ t a b => sites underOp t ++ sites underOp a ++ sites underOp b
  | block _ items | tuple items => sitesAll underOp items
  | _ => []

/-- The calls in some statements or expressions. -/
def sitesAll (underOp : Bool) : List Code → List CallSite
  | [] => []
  | c :: rest => sites underOp c ++ sitesAll underOp rest

end

theorem sitesAll_eq_flatMap (underOp : Bool) (cs : List Code) :
    sitesAll underOp cs = cs.flatMap (sites underOp) := by
  induction cs with
  | nil => rfl
  | cons c cs ih => rw [sitesAll, ih, flatMap_cons]

open CallSite

variable {follow : Follow} {stack : List String} {c : Code} {cs : List Code}

theorem append_ok_nil (x : Except CodeError (List Datum)) :
    (do return (← x) ++ (← Except.ok [])) = x := by
  cases x with
  | error e => rfl
  | ok names => exact congrArg Except.ok (append_nil names)

theorem reachedAll_eq_visitAll {underOp : Bool} {follow' : Follow}
    (h : ∀ c ∈ cs, reached follow' stack c = visitAll follow stack (c.sites underOp)) :
    reachedAll follow' stack cs = visitAll follow stack (sitesAll underOp cs) := by
  induction cs with
  | nil => rfl
  | cons c cs ih =>
    rw [forall_mem_cons] at h
    rw [reachedAll, sitesAll, visitAll_append, h.1, ih h.2]

theorem Expression.reached_eq {calls : Bool} (h : Expression calls c) (underOp : Bool) :
    reached (bif underOp then refuseCall else follow) stack c =
      visitAll follow stack (c.sites underOp) := by
  induction h generalizing underOp with
  | const | name => rfl
  | @op _ r symbol operands _ ih =>
    have hoperands : reachedAll refuseCall stack operands =
        visitAll follow stack (sitesAll true operands) :=
      reachedAll_eq_visitAll fun c hc => ih c hc true
    rw [reached, reached, reached, sites, sites, ← hoperands]
    cases reachedAll refuseCall stack operands <;> rfl
  | attr _ ih =>
    rw [reached, sites, ← ih underOp]
    exact append_ok_nil _
  | item _ _ ihv ihi => rw [reached, sites, visitAll_append, ihv underOp, ihi underOp]
  | call =>
    rw [reached, sites, visitAll]
    exact (append_ok_nil _).symm

theorem reached_ofText? (s : Option String) : reached follow stack (ofText? s) = .ok [] := by
  cases s <;> rfl

theorem reached_assign_eq {r : Option Origin} {t v : Code} {aug : Option String}
    (ht : Expression true t) (hv : Expression true v) :
    reached follow stack (.assign r t v (ofText? aug)) =
      visitAll follow stack ((Code.assign r t v (ofText? aug)).sites false) := by
  rw [reached, sites, visitAll_append, reached_ofText?, ← ht.reached_eq false,
    ← hv.reached_eq false,
    cond_false]
  cases reached follow stack t with
  | error e => rfl
  | ok own =>
    cases reached follow stack v with
    | error e => rfl
    | ok more => exact congrArg Except.ok (append_nil _)

theorem Statement.reached_eq (h : IsStatement c) :
    reached follow stack c = visitAll follow stack (c.sites false) := by
  induction h with
  | pass | bareRet => rfl
  | assign ht hv => exact reached_assign_eq ht.2 hv
  | assignCall ht hc => exact reached_assign_eq ht.2 hc.expression
  | @cond r t ra a rb b ht _ _ iha ihb =>
    rw [reached, sites, visitAll_append, visitAll_append, ← ht.reached_eq false, reached, sites,
      reached, sites, ← reachedAll_eq_visitAll iha, ← reachedAll_eq_visitAll ihb, cond_false]
    cases reached follow stack t with
    | error e => rfl
    | ok own =>
      cases reachedAll follow stack a <;> rfl
  | ret hv =>
    rw [reached, sites]
    exact hv.reached_eq false
  | bareCall hc =>
    rw [reached, sites]
    exact hc.expression.reached_eq false

/-! ## Callees -/

variable {s : CallSite}

theorem Expression.callee_of_mem {calls underOp : Bool} (h : Expression calls c)
    (hs : s ∈ c.sites underOp) : ∃ n, s.callee = text n := by
  induction h generalizing underOp with
  | const | name => exact nomatch hs
  | op _ ih =>
    rw [sites, sites, sitesAll_eq_flatMap] at hs
    obtain ⟨c, hc, hs⟩ := mem_flatMap.1 hs
    exact ih c hc hs
  | attr _ ih => exact ih hs
  | item _ _ ihv ihi => exact (mem_append.1 hs).elim ihv ihi
  | call =>
    cases mem_singleton.1 hs
    exact ⟨_, rfl⟩

/-- The calls of a statement are of functions by their names. -/
theorem Statement.callee_of_mem (h : IsStatement c) (hs : s ∈ c.sites false) :
    ∃ n, s.callee = text n := by
  induction h with
  | pass | bareRet => exact nomatch hs
  | assign ht hv => exact (mem_append.1 hs).elim ht.2.callee_of_mem hv.callee_of_mem
  | assignCall ht hc =>
    exact (mem_append.1 hs).elim ht.2.callee_of_mem hc.expression.callee_of_mem
  | @cond r t ra a rb b ht _ _ iha ihb =>
    rw [sites, sites, sites, sitesAll_eq_flatMap, sitesAll_eq_flatMap] at hs
    rcases mem_append.1 hs with hs | hs
    · rcases mem_append.1 hs with hs | hs
      · exact ht.callee_of_mem hs
      · obtain ⟨c, hc, hs⟩ := mem_flatMap.1 hs
        exact iha c hc hs
    · obtain ⟨c, hc, hs⟩ := mem_flatMap.1 hs
      exact ihb c hc hs
  | ret hv => exact hv.callee_of_mem hs
  | bareCall hc => exact hc.expression.callee_of_mem hs

end Code

end DataDiagram
