import DataDiagram.Module.NameCheck
import DataDiagram.Proofs.Code.Shape
/-!
# Names in code

The names that stand in a piece of code and those that it assigns to as a whole.  The check of names
depends on nothing else, and when names are replaced by names, each of them is replaced where it
stands.
-/

namespace DataDiagram

open List

theorem unit_bind_eq_ok_iff {ε : Type} {x y : Except ε Unit} :
    (do x; y) = .ok () ↔ x = .ok () ∧ y = .ok () := by
  rw [bind_eq_ok_iff]
  constructor
  · rintro ⟨_, hx, hy⟩
    exact ⟨hx, hy⟩
  · rintro ⟨hx, hy⟩
    exact ⟨(), hx, hy⟩

namespace Code

/-- The text that an identifier is. -/
def texts : Code → List String
  | text x => [x]
  | _ => []

def whole : Code → List String
  | name _ id => id.texts
  | _ => []

mutual

/-- The names in a piece of code, in the order in which they stand. -/
def mentioned : Code → List String
  | datum _ | pass _ | bare _ _ => []
  | name _ id => id.texts
  | tuple items => mentionedAll items
  | const _ v | ret _ v | bareCall _ v => mentioned v
  | op _ v w | attr _ v w | item _ v w | call _ v w => mentioned v ++ mentioned w
  | block _ body => mentionedAll body
  | assign _ u v w | cond _ u v w | cls _ u v w => mentioned u ++ mentioned v ++ mentioned w
  | var _ n t s i => mentioned n ++ mentioned t ++ mentioned s ++ mentioned i
  | func _ n as b gs ls =>
    mentioned n ++ mentioned as ++ mentioned b ++ mentioned gs ++ mentioned ls

/-- The names in some pieces of code. -/
def mentionedAll : List Code → List String
  | [] => []
  | c :: rest => mentioned c ++ mentionedAll rest

end

mutual

/-- The names that the statements of a piece of code assign to as a whole; an assignment to a field
or to an element is none to its base. -/
def assigned : Code → List String
  | tuple items => assignedAll items
  | block _ body => assignedAll body
  | assign _ t _ _ => t.whole
  | cond _ _ a b => assigned a ++ assigned b
  | _ => []

/-- The names that some statements assign to as a whole. -/
def assignedAll : List Code → List String
  | [] => []
  | c :: rest => assigned c ++ assignedAll rest

end

variable {calls : Bool} {args vars : List String} {c c' : Code} {cs cs' body : List Code}
  {m : Substitution} {ρ : String → String}

attribute [local simp] mentioned mentionedAll assigned assignedAll checkNames checkNamesAll

theorem mentionedAll_eq_flatMap (cs : List Code) : mentionedAll cs = cs.flatMap mentioned := by
  induction cs with
  | nil => rfl
  | cons c cs ih => rw [mentionedAll, ih, flatMap_cons]

theorem assignedAll_eq_flatMap (cs : List Code) : assignedAll cs = cs.flatMap assigned := by
  induction cs with
  | nil => rfl
  | cons c cs ih => rw [assignedAll, ih, flatMap_cons]

theorem mentioned_ofText? (s : Option String) : (ofText? s).mentioned = [] := by
  cases s <;> rfl

/-! ## The check of names -/

theorem targets_iff (args : List String) (c : Code) :
    c.targets args = true ↔ ∃ x ∈ c.whole, x ∈ args := by
  unfold targets
  split
  · unfold isAmong whole texts
    split <;> simp_all
  · unfold whole
    split <;> simp_all

theorem checkNamesAll_iff :
    checkNamesAll args vars cs = .ok () ↔ ∀ c ∈ cs, checkNames args vars c = .ok () := by
  induction cs with
  | nil => simp [checkNamesAll]
  | cons c cs ih => rw [checkNamesAll, unit_bind_eq_ok_iff, ih, forall_mem_cons]

theorem checkNames_ofText? (s : Option String) : checkNames args vars (ofText? s) = .ok () := by
  cases s <;> rfl

theorem checkNamesAll_iff_mentionedAll (h : ∀ c ∈ cs,
    (checkNames args vars c = .ok () ↔ ∀ x ∈ c.mentioned, x ∈ args ∨ x ∈ vars)) :
    checkNamesAll args vars cs = .ok () ↔ ∀ x ∈ mentionedAll cs, x ∈ args ∨ x ∈ vars := by
  rw [checkNamesAll_iff, mentionedAll_eq_flatMap, forall_mem_flatMap]
  exact forall₂_congr h

/-- An expression passes the check if its names are visible. -/
theorem Expression.checkNames_iff (h : Expression calls c) :
    checkNames args vars c = .ok () ↔ ∀ x ∈ c.mentioned, x ∈ args ∨ x ∈ vars := by
  induction h with
  | const => simp [checkNames, mentioned]
  | @name _ r x =>
    rw [checkNames, mentioned, texts, forall_mem_singleton]
    by_cases hx : x ∈ args ∨ x ∈ vars <;> simp [isAmong, hx]
  | op _ ih | call _ ih =>
    have hoperands := checkNamesAll_iff_mentionedAll ih
    simp only [checkNames, unit_bind_eq_ok_iff, mentioned, hoperands, nil_append, true_and]
  | attr _ ih =>
    simp only [checkNames, unit_bind_eq_ok_iff, mentioned, ih, append_nil, and_true]
  | item _ _ ihv ihi =>
    simp only [checkNames, unit_bind_eq_ok_iff, mentioned, ihv, ihi, forall_mem_append]

/-- The names in code are visible, and it assigns to no argument. -/
def Visible (args vars : List String) (c : Code) : Prop :=
  (∀ x ∈ c.mentioned, x ∈ args ∨ x ∈ vars) ∧ ∀ x ∈ c.assigned, x ∉ args

theorem visible_tuple_iff :
    Visible args vars (tuple cs) ↔ ∀ c ∈ cs, Visible args vars c := by
  unfold Visible
  rw [mentioned, assigned, mentionedAll_eq_flatMap, assignedAll_eq_flatMap, forall_mem_flatMap,
    forall_mem_flatMap]
  exact ⟨fun h c hc => ⟨h.1 c hc, h.2 c hc⟩,
    fun h => ⟨fun c hc => (h c hc).1, fun c hc => (h c hc).2⟩⟩

theorem checkNames_assign_iff {r : Option Origin} {t v : Code} {aug : Option String}
    (ht : Expression true t) (hv : Expression true v) :
    checkNames args vars (.assign r t v (ofText? aug)) = .ok () ↔
      Visible args vars (.assign r t v (ofText? aug)) := by
  rw [checkNames, Visible, mentioned, assigned, mentioned_ofText?, append_nil,
    forall_mem_append, ← ht.checkNames_iff, ← hv.checkNames_iff]
  have htargets := targets_iff args t
  split
  · next h =>
      obtain ⟨x, hx, hargs⟩ := htargets.1 h
      exact ⟨(fun h => nomatch h), fun h => absurd hargs (h.2 x hx)⟩
  · next h =>
      rw [unit_bind_eq_ok_iff, unit_bind_eq_ok_iff, checkNames_ofText?]
      have hnot : ∀ x ∈ t.whole, x ∉ args := fun x hx hargs => h (htargets.2 ⟨x, hx, hargs⟩)
      exact ⟨fun h => ⟨⟨h.1, h.2.1⟩, hnot⟩, fun h => ⟨h.1.1, h.1.2, rfl⟩⟩

theorem visible_of_assigned_eq_nil (h : c.assigned = []) :
    Visible args vars c ↔ ∀ x ∈ c.mentioned, x ∈ args ∨ x ∈ vars := by
  rw [Visible, h]
  exact and_iff_left (forall_mem_nil _)

theorem checkNamesAll_iff_visible
    (h : ∀ c ∈ cs, (checkNames args vars c = .ok () ↔ Visible args vars c)) :
    checkNamesAll args vars cs = .ok () ↔ Visible args vars (tuple cs) := by
  rw [checkNamesAll_iff, visible_tuple_iff]
  exact forall₂_congr h

/-- A statement passes the check if its names are visible and it assigns to no argument. -/
theorem Statement.checkNames_iff (h : IsStatement c) :
    checkNames args vars c = .ok () ↔ Visible args vars c := by
  induction h with
  | pass => simp [checkNames, Visible, mentioned, assigned]
  | assign ht hv => exact checkNames_assign_iff ht.2 hv
  | assignCall ht hc => exact checkNames_assign_iff ht.2 hc.expression
  | @cond r t ra a rb b ht _ _ iha ihb =>
    have hthen := checkNamesAll_iff_visible iha
    have helse := checkNamesAll_iff_visible ihb
    rw [checkNames, checkNames, checkNames, unit_bind_eq_ok_iff, unit_bind_eq_ok_iff, hthen, helse,
      ht.checkNames_iff]
    simp only [Visible, mentioned, assigned, forall_mem_append]
    exact ⟨fun ⟨h, h₁, h₂⟩ => ⟨⟨⟨h, h₁.1⟩, h₂.1⟩, h₁.2, h₂.2⟩,
      fun ⟨⟨⟨h, h₁⟩, h₂⟩, h₃, h₄⟩ => ⟨h, ⟨h₁, h₃⟩, h₂, h₄⟩⟩
  | ret hv =>
    rw [visible_of_assigned_eq_nil rfl]
    exact hv.checkNames_iff
  | bareRet => simp [checkNames, Visible, mentioned, assigned]
  | bareCall hc =>
    rw [visible_of_assigned_eq_nil rfl]
    exact hc.expression.checkNames_iff

theorem Statement.checkNamesAll_iff (h : ∀ c ∈ body, IsStatement c) :
    checkNamesAll args vars body = .ok () ↔ Visible args vars (tuple body) :=
  checkNamesAll_iff_visible fun c hc => (h c hc).checkNames_iff

end Code

/-! ## Names for names -/

/-- Some names are replaced by others, each by the one that `ρ` gives. -/
def Substitution.Relabels (m : Substitution) (ρ : String → String) : Prop :=
  ∀ x, (m x = none ∧ ρ x = x) ∨ m x = some (.text (ρ x))

namespace Code

variable {calls : Bool} {c c' : Code} {cs cs' body body' : List Code} {m : Substitution}
  {ρ : String → String}

theorem flatMap_substAll {names : Code → List String}
    (h : ∀ c ∈ cs, ∀ c', c.subst m = .ok c' → names c' = (names c).map ρ)
    (hcs : substAll m cs = .ok cs') : cs'.flatMap names = (cs.flatMap names).map ρ := by
  induction cs generalizing cs' with
  | nil =>
    cases hcs
    rfl
  | cons c cs ih =>
    rw [forall_mem_cons] at h
    obtain ⟨d, ds, hd, hds, rfl⟩ := substAll_cons_eq_ok hcs
    rw [flatMap_cons, flatMap_cons, map_append, h.1 d hd, ih h.2 hds]

/-- The same expression with other names. -/
structure Relabelled (ρ : String → String) (calls : Bool) (c c' : Code) : Prop where
  expression : Expression calls c'
  mentioned : c'.mentioned = c.mentioned.map ρ
  whole : c'.whole = c.whole.map ρ
  isLookup : c'.isLookup = c.isLookup

theorem relabelled_substAll (h : ∀ c ∈ cs, ∀ c', c.subst m = .ok c' → Relabelled ρ true c c')
    (hcs : substAll m cs = .ok cs') :
    (∀ c ∈ cs', Expression true c) ∧ mentionedAll cs' = (mentionedAll cs).map ρ := by
  rw [mentionedAll_eq_flatMap, mentionedAll_eq_flatMap]
  exact ⟨Statement.substAll_eq_ok (fun c hc c' hc' => (h c hc c' hc').expression) hcs,
    flatMap_substAll (fun c hc c' hc' => (h c hc c' hc').mentioned) hcs⟩

/-- An expression stays one when its names are replaced by names. -/
theorem Expression.relabelled (hm : m.Relabels ρ) (h : Expression calls c)
    (hc : c.subst m = .ok c') : Relabelled ρ calls c c' := by
  induction h generalizing c' with
  | const =>
    simp only [subst, bind_eq_ok_iff] at hc
    obtain ⟨_, hv, _, -, hpure⟩ := hc
    cases hv
    cases hpure
    exact ⟨.const, rfl, rfl, rfl⟩
  | @name _ r x =>
    rw [subst, substName] at hc
    rcases hm x with ⟨hnone, hx⟩ | hsome
    · simp only [hnone] at hc
      cases hc
      refine ⟨.name, ?_, ?_, rfl⟩
      · simp only [Code.mentioned, texts, map_cons, hx, map_nil]
      · simp only [Code.whole, texts, map_cons, hx, map_nil]
    · simp only [hsome, replaceName, bind_eq_ok_iff] at hc
      obtain ⟨_, -, hpure⟩ := hc
      cases hpure
      exact ⟨.name, rfl, rfl, rfl⟩
  | op hops ih =>
    simp only [subst, bind_eq_ok_iff] at hc
    obtain ⟨_, ho, _, ⟨operands, hoperands, htuple⟩, _, -, hpure⟩ := hc
    cases ho
    cases htuple
    cases hpure
    rw [substItems_eq_substAll m fun c hc => (hops c hc).isNode] at hoperands
    obtain ⟨hall, hnames⟩ := relabelled_substAll (fun c hc _ => ih c hc) hoperands
    exact ⟨.op hall, hnames, rfl, rfl⟩
  | attr hv ih =>
    simp only [subst, bind_eq_ok_iff] at hc
    obtain ⟨v, hv', _, ha, _, -, hpure⟩ := hc
    cases ha
    cases hpure
    have hvalue := ih hv'
    refine ⟨.attr hvalue.expression, ?_, rfl, rfl⟩
    simp only [Code.mentioned, append_nil, hvalue.mentioned]
  | item hv hi ihv ihi =>
    simp only [subst, bind_eq_ok_iff] at hc
    obtain ⟨v, hv', i, hi', _, -, hpure⟩ := hc
    cases hpure
    have hvalue := ihv hv'
    have hindex := ihi hi'
    refine ⟨.item hvalue.expression hindex.expression, ?_, rfl, rfl⟩
    simp only [Code.mentioned, map_append, hvalue.mentioned, hindex.mentioned]
  | call hargs ih =>
    obtain ⟨args, hargs', rfl⟩ := subst_callOf_eq_ok (fun a ha => (hargs a ha).isNode) hc
    obtain ⟨hall, hnames⟩ := relabelled_substAll (fun c hc _ => ih c hc) hargs'
    exact ⟨.call hall, hnames, rfl, rfl⟩

theorem CallOf.relabelled (hm : m.Relabels ρ) (h : CallOf (fun _ => True) (Expression true) c)
    (hc : c.subst m = .ok c') : CallOf (fun _ => True) (Expression true) c' := by
  obtain ⟨r, f, args, rfl, -, hargs⟩ := h
  obtain ⟨args', hargs', rfl⟩ := subst_callOf_eq_ok (fun a ha => (hargs a ha).isNode) hc
  obtain ⟨hall, -⟩ := relabelled_substAll (fun a ha _ => (hargs a ha).relabelled hm) hargs'
  exact ⟨r, f, args', rfl, trivial, hall⟩

namespace Statement

theorem isStatement_subst (hm : m.Relabels ρ) (h : IsStatement c) (hc : c.subst m = .ok c') :
    IsStatement c' := by
  refine subst ?_ (fun _ _ hv hv' => (hv.relabelled hm hv').expression)
    (fun _ _ hcall hcall' => hcall.relabelled hm hcall') h hc
  intro t t' ht ht'
  have hlabel := ht.2.relabelled hm ht'
  exact ⟨hlabel.isLookup.trans ht.1, hlabel.expression⟩

theorem names_assign {r : Option Origin} {t v : Code} {aug : Option String} (hm : m.Relabels ρ)
    (ht : Expression true t) (hv : Expression true v)
    (hc : (Code.assign r t v (ofText? aug)).subst m = .ok c') :
    c'.mentioned = (Code.assign r t v (ofText? aug)).mentioned.map ρ ∧
      c'.assigned = (Code.assign r t v (ofText? aug)).assigned.map ρ := by
  obtain ⟨t', v', ht', hv', rfl⟩ := subst_assign_parts hc
  have htarget := ht.relabelled hm ht'
  have hvalue := hv.relabelled hm hv'
  refine ⟨?_, htarget.whole⟩
  simp only [mentioned, mentioned_ofText?, append_nil, map_append, htarget.mentioned,
    hvalue.mentioned]

/-- Names are replaced where they stand, those that are assigned to among them. -/
theorem names_subst (hm : m.Relabels ρ) (h : IsStatement c) (hc : c.subst m = .ok c') :
    c'.mentioned = c.mentioned.map ρ ∧ c'.assigned = c.assigned.map ρ := by
  induction h generalizing c' with
  | pass =>
    obtain rfl := subst_pass_eq_ok hc
    exact ⟨rfl, rfl⟩
  | assign ht hv => exact names_assign hm ht.2 hv hc
  | assignCall ht hcall => exact names_assign hm ht.2 hcall.expression hc
  | @cond r t ra a rb b ht ha hb iha ihb =>
    obtain ⟨t', _, _, ht', hthen, helse, rfl⟩ := subst_cond_eq_ok hc
    obtain ⟨as, has, rfl⟩ := subst_block_eq_ok (fun c hc => (ha c hc).isNode) hthen
    obtain ⟨bs, hbs, rfl⟩ := subst_block_eq_ok (fun c hc => (hb c hc).isNode) helse
    have hastmts := substAll_eq_ok (fun c hc _ => isStatement_subst hm (ha c hc)) has
    have hbstmts := substAll_eq_ok (fun c hc _ => isStatement_subst hm (hb c hc)) hbs
    rw [(flat hastmts).mkBlock, (flat hbstmts).mkBlock]
    have htest := (ht.relabelled hm ht').mentioned
    constructor
    · have hthen := flatMap_substAll (fun c hc _ hc' => (iha c hc hc').1) has
      have helse := flatMap_substAll (fun c hc _ hc' => (ihb c hc hc').1) hbs
      simp only [mentioned, mentionedAll_eq_flatMap, map_append, htest, hthen, helse]
    · have hthen := flatMap_substAll (fun c hc _ hc' => (iha c hc hc').2) has
      have helse := flatMap_substAll (fun c hc _ hc' => (ihb c hc hc').2) hbs
      simp only [assigned, assignedAll_eq_flatMap, map_append, hthen, helse]
  | ret hv =>
    obtain ⟨v', hv', rfl⟩ := subst_ret_eq_ok hc
    exact ⟨(hv.relabelled hm hv').mentioned, rfl⟩
  | bareRet =>
    obtain ⟨v', hv', rfl⟩ := subst_ret_eq_ok hc
    cases hv'
    exact ⟨rfl, rfl⟩
  | bareCall hcall =>
    obtain ⟨v', hv', rfl⟩ := subst_bareCall_eq_ok hc
    exact ⟨(hcall.expression.relabelled hm hv').mentioned, rfl⟩

theorem names_substAll (hm : m.Relabels ρ) (h : ∀ c ∈ body, IsStatement c)
    (hbody : substAll m body = .ok body') :
    (∀ c ∈ body', IsStatement c) ∧ mentionedAll body' = (mentionedAll body).map ρ ∧
      assignedAll body' = (assignedAll body).map ρ := by
  refine ⟨substAll_eq_ok (fun c hc _ => isStatement_subst hm (h c hc)) hbody, ?_, ?_⟩
  · rw [mentionedAll_eq_flatMap, mentionedAll_eq_flatMap]
    exact flatMap_substAll (fun c hc _ hc' => (names_subst hm (h c hc) hc').1) hbody
  · rw [assignedAll_eq_flatMap, assignedAll_eq_flatMap]
    exact flatMap_substAll (fun c hc _ hc' => (names_subst hm (h c hc) hc').2) hbody

end Statement

end Code

end DataDiagram
