import DataDiagram.Proofs.Code.Straight
/-!
# Calls in code

Which calls stand in a piece of code, and which of them inlining enters.  Replacing names and making
returns normal bring in no others.  Along the way every error is looked at: none of these steps
fails as a call does that leads back to a function on the way or to one that is not defined.
-/

namespace DataDiagram

open List

/-- An error of a call that leads back to a function on the way, or to none. -/
def CodeError.Stray : CodeError → Prop
  | .located l => l.message = "unsupported recursive function"
  | .unknownFunction _ => True
  | _ => False

/-- The outcome satisfies `P`, or is an error for another reason than a stray call. -/
def Guarded {α : Type} (P : α → Prop) : Except CodeError α → Prop
  | .ok a => P a
  | .error e => ¬ e.Stray

namespace Guarded

variable {α β : Type} {P : α → Prop} {Q : β → Prop} {x : Except CodeError α}
  {f : α → Except CodeError β}

theorem bind (hx : Guarded P x) (hf : ∀ a, x = .ok a → P a → Guarded Q (f a)) :
    Guarded Q (x >>= f) := by
  cases x with
  | error e => exact hx
  | ok a => exact hf a rfl hx

theorem mono {P' : α → Prop} (hx : Guarded P x) (h : ∀ a, x = .ok a → P a → P' a) :
    Guarded P' x := by
  cases x with
  | error e => exact hx
  | ok a => exact h a rfl hx

end Guarded

namespace Code

/-! ## Errors -/

theorem not_stray_error (c : Code) {message : String}
    (h : message ≠ "unsupported recursive function") : ¬ (c.error message).Stray := by
  unfold error Origin.error
  split
  · exact id
  · split
    · exact id
    · split
      · exact id
      · exact h

theorem not_stray_originError (c : Code) : ¬ c.originError.Stray := by
  unfold originError displayed
  by_cases h : c.isDisplayable = true
  · rw [if_pos h]
    exact id
  · rw [if_neg h]
    exact id

theorem guarded_requireRef (kind : String) (r : Option Origin) :
    Guarded (fun _ => True) (requireRef kind r) := by
  cases r with
  | none => exact id
  | some o => exact trivial

theorem guarded_requireNode (member : String) (c : Code) :
    Guarded (fun _ => True) (requireNode member c) := by
  unfold requireNode
  split
  · exact trivial
  · exact id

theorem guarded_length (c : Code) : Guarded (fun _ => True) c.length := by
  unfold length
  split
  · exact trivial
  · exact trivial
  · exact id

theorem guarded_items (c : Code) : Guarded (fun cs => c.items? = some cs) c.items := by
  unfold items
  split
  · assumption
  · exact id

theorem guarded_checkArity (f params args : Code) :
    Guarded (fun _ => True) (checkArity f params args) := by
  refine (guarded_length args).bind fun given _ _ => ?_
  refine (guarded_length params).bind fun expected _ _ => ?_
  split
  · exact trivial
  · refine not_stray_error f fun h => ?_
    have hhead := congrArg (fun s : String => s.toList.head?) h
    simp at hhead

/-! ## Calls -/

mutual

/-- The function and the arguments of every call in the code, those inside of arguments aside. -/
def calls : Code → List (Code × Code)
  | datum _ | pass _ | bare _ _ => []
  | tuple items => callsAll items
  | block _ body => callsAll body
  | call _ f args => [(f, args)]
  | const _ v | name _ v | ret _ v | bareCall _ v => v.calls
  | op _ v w | attr _ v w | item _ v w => v.calls ++ w.calls
  | assign _ u v w | cond _ u v w | cls _ u v w => u.calls ++ v.calls ++ w.calls
  | var _ n t s i => n.calls ++ t.calls ++ s.calls ++ i.calls
  | func _ n as b gs ls => n.calls ++ as.calls ++ b.calls ++ gs.calls ++ ls.calls

/-- The calls in some pieces of code. -/
def callsAll : List Code → List (Code × Code)
  | [] => []
  | c :: rest => c.calls ++ callsAll rest

end

mutual

/-- The calls that inlining can enter: those that are a whole value or a whole statement. -/
def entered : Code → List (Code × Code)
  | call _ f args => [(f, args)]
  | assign _ _ v _ | bareCall _ v => v.entered
  | cond _ _ a b => a.entered ++ b.entered
  | block _ body => enteredAll body
  | tuple items => enteredAll items
  | _ => []

/-- The calls in some pieces of code that inlining can enter. -/
def enteredAll : List Code → List (Code × Code)
  | [] => []
  | c :: rest => c.entered ++ enteredAll rest

end

/-- No call has a call among its arguments. -/
def PlainCalls (c : Code) : Prop := ∀ p ∈ c.calls, p.2.calls = []

mutual

theorem entered_subset_calls : ∀ c : Code, c.entered ⊆ c.calls
  | call .. => fun _ => id
  | assign _ t v o => by
    intro p hp
    have hv := entered_subset_calls v hp
    rw [calls]
    exact mem_append_left _ (mem_append_right _ hv)
  | bareCall _ c => entered_subset_calls c
  | cond _ t a b => by
    intro p hp
    rw [entered, mem_append] at hp
    rw [calls]
    rcases hp with hp | hp
    · exact mem_append_left _ (mem_append_right _ (entered_subset_calls a hp))
    · exact mem_append_right _ (entered_subset_calls b hp)
  | block _ body => enteredAll_subset_callsAll body
  | tuple items => enteredAll_subset_callsAll items
  | datum _ | const .. | op .. | name .. | attr .. | item .. | pass _ | ret .. | var .. | cls ..
  | func .. | bare .. => nil_subset _

theorem enteredAll_subset_callsAll : ∀ cs : List Code, enteredAll cs ⊆ callsAll cs
  | [] => nil_subset _
  | c :: rest => by
    intro p hp
    rw [enteredAll, mem_append] at hp
    rw [callsAll, mem_append]
    exact hp.imp (fun h => entered_subset_calls c h) fun h => enteredAll_subset_callsAll rest h

end

theorem callsAll_append (cs ds : List Code) : callsAll (cs ++ ds) = callsAll cs ++ callsAll ds := by
  induction cs with
  | nil => rfl
  | cons c cs ih => rw [cons_append, callsAll, callsAll, ih, append_assoc]

theorem enteredAll_append (cs ds : List Code) :
    enteredAll (cs ++ ds) = enteredAll cs ++ enteredAll ds := by
  induction cs with
  | nil => rfl
  | cons c cs ih => rw [cons_append, enteredAll, enteredAll, ih, append_assoc]

mutual

theorem callsAll_flatten : ∀ c : Code, callsAll c.flatten = c.calls
  | block _ body => callsAll_flattenAll body
  | tuple items => callsAll_flattenAll items
  | datum _ | const .. | op .. | name .. | attr .. | item .. | call .. | pass _ | assign ..
  | cond ..
  | ret .. | bareCall .. | var .. | cls .. | func .. | bare .. => append_nil _

theorem callsAll_flattenAll : ∀ cs : List Code, callsAll (flattenAll cs) = callsAll cs
  | [] => rfl
  | c :: rest => by
    rw [flattenAll, callsAll_append, callsAll_flatten c, callsAll_flattenAll rest, callsAll]

end

mutual

theorem enteredAll_flatten : ∀ c : Code, enteredAll c.flatten = c.entered
  | block _ body => enteredAll_flattenAll body
  | tuple items => enteredAll_flattenAll items
  | datum _ | const .. | op .. | name .. | attr .. | item .. | call .. | pass _ | assign ..
  | cond ..
  | ret .. | bareCall .. | var .. | cls .. | func .. | bare .. => append_nil _

theorem enteredAll_flattenAll : ∀ cs : List Code, enteredAll (flattenAll cs) = enteredAll cs
  | [] => rfl
  | c :: rest => by
    rw [flattenAll, enteredAll_append, enteredAll_flatten c, enteredAll_flattenAll rest, enteredAll]

end

/-! ## Replacing names -/

/-- A call `p'` that comes of the call `p`: it is of the same function, and arguments without calls
still have none. -/
def Stems (p p' : Code × Code) : Prop :=
  (∀ f, p.1 = text f → p'.1 = text f) ∧ (p.2.calls = [] → p'.2.calls = [])

/-- Every call of `ps'` comes of one of `ps`. -/
def Arise (ps ps' : List (Code × Code)) : Prop := ∀ p' ∈ ps', ∃ p ∈ ps, Stems p p'

theorem Arise.nil (ps : List (Code × Code)) : Arise ps [] := by
  simp [Arise]

theorem Arise.refl (ps : List (Code × Code)) : Arise ps ps :=
  fun p hp => ⟨p, hp, fun _ => id, id⟩

theorem Arise.append {ps ps' qs qs' : List (Code × Code)} (hp : Arise ps ps') (hq : Arise qs qs') :
    Arise (ps ++ qs) (ps' ++ qs') := by
  intro p' hmem
  rcases mem_append.1 hmem with hmem | hmem
  · obtain ⟨p, hp, hstems⟩ := hp p' hmem
    exact ⟨p, mem_append_left qs hp, hstems⟩
  · obtain ⟨p, hp, hstems⟩ := hq p' hmem
    exact ⟨p, mem_append_right ps hp, hstems⟩

theorem Arise.eq_nil {ps ps' : List (Code × Code)} (h : Arise ps ps') (hps : ps = []) :
    ps' = [] := by
  subst hps
  refine eq_nil_iff_forall_not_mem.2 fun p' hp' => ?_
  obtain ⟨p, hp, -⟩ := h p' hp'
  exact not_mem_nil hp

/-- Code `c'` whose calls all come of calls of `c`. -/
structure Derived (c c' : Code) : Prop where
  calls : Arise c.calls c'.calls
  entered : Arise c.entered c'.entered

namespace Derived

theorem refl (c : Code) : Derived c c := ⟨.refl _, .refl _⟩

theorem of_calls_eq_nil (c : Code) {c' : Code} (h : c'.calls = []) : Derived c c' := by
  have hentered : c'.entered = [] := eq_nil_of_subset_nil (h ▸ entered_subset_calls c')
  refine ⟨?_, ?_⟩
  · rw [h]
    exact .nil _
  · rw [hentered]
    exact .nil _

theorem cons {c c' : Code} {cs cs' : List Code} (hc : Derived c c')
    (hcs : Derived (tuple cs) (tuple cs')) : Derived (tuple (c :: cs)) (tuple (c' :: cs')) :=
  ⟨hc.calls.append hcs.calls, hc.entered.append hcs.entered⟩

theorem mkBlock {cs cs' : List Code} (r : Option Origin) (h : Derived (tuple cs) (tuple cs')) :
    Derived (block r cs) (mkBlock r cs') := by
  refine ⟨?_, ?_⟩
  · show Arise (callsAll cs) (callsAll (flattenAll cs'))
    rw [callsAll_flattenAll]
    exact h.calls
  · show Arise (enteredAll cs) (enteredAll (flattenAll cs'))
    rw [enteredAll_flattenAll]
    exact h.entered

end Derived

end Code

/-- Names are replaced by code without calls. -/
def Substitution.Quiet (m : Substitution) : Prop := ∀ x a, m x = some a → a.calls = []

namespace Code

variable {m : Substitution}

theorem guarded_replaceName {a : Code} (ha : a.calls = []) (r : Option Origin) (x : String) :
    Guarded (fun c => c.calls = []) (replaceName r (text x) a) := by
  unfold replaceName
  split
  · exact rfl
  · exact (guarded_requireRef _ r).bind fun _ _ _ => rfl
  · exact (guarded_requireRef _ r).bind fun _ _ _ => rfl
  · exact (guarded_requireRef _ r).bind fun _ _ _ => rfl
  · exact id
  · exact id
  · exact ha

theorem guarded_substName (hm : m.Quiet) (r : Option Origin) (id : Code) :
    Guarded (Derived (name r id)) (substName m r id) := by
  unfold substName
  split
  · next x =>
      split
      · next a ha =>
          exact (guarded_replaceName (hm x a ha) r x).mono fun c _ hc => .of_calls_eq_nil _ hc
      · exact .refl _
  · exact .refl _

mutual

/-- Replacing names by code without calls brings in no calls. -/
theorem guarded_subst (hm : m.Quiet) :
    ∀ c : Code, Guarded (Derived c) (c.subst m)
  | datum d => .refl _
  | tuple items => by
    rw [subst]
    exact (guarded_substItems hm items).bind fun _ _ h => h
  | const r v => by
    rw [subst]
    refine (guarded_subst hm v).bind fun v' _ hv => (guarded_requireRef _ r).bind fun _ _ _ => ?_
    exact ⟨hv.calls, .nil _⟩
  | op r o cs => by
    rw [subst]
    refine (guarded_subst hm o).bind fun o' _ ho => (guarded_subst hm cs).bind fun cs' _ hcs => ?_
    refine (guarded_requireRef _ r).bind fun _ _ _ => ?_
    exact ⟨ho.calls.append hcs.calls, .nil _⟩
  | name r id => guarded_substName hm r id
  | attr r v a => by
    rw [subst]
    refine (guarded_subst hm v).bind fun v' _ hv => (guarded_subst hm a).bind fun a' _ ha => ?_
    refine (guarded_requireRef _ r).bind fun _ _ _ => ?_
    exact ⟨hv.calls.append ha.calls, .nil _⟩
  | item r v i => by
    rw [subst]
    refine (guarded_subst hm v).bind fun v' _ hv => (guarded_subst hm i).bind fun i' _ hi => ?_
    refine (guarded_requireRef _ r).bind fun _ _ _ => ?_
    exact ⟨hv.calls.append hi.calls, .nil _⟩
  | call r f as => by
    rw [subst]
    refine (guarded_subst hm f).bind fun f' hf _ => (guarded_subst hm as).bind fun as' _ has => ?_
    refine (guarded_requireRef _ r).bind fun _ _ _ => ?_
    have hstems : Stems (f, as) (f', as') := by
      refine ⟨fun g hg => ?_, has.calls.eq_nil⟩
      subst hg
      exact (Except.ok.inj hf).symm
    have harise : Arise [(f, as)] [(f', as')] :=
      forall_mem_singleton.2 ⟨_, mem_cons_self, hstems⟩
    exact ⟨harise, harise⟩
  | block r body => by
    rw [subst]
    refine (guarded_substItems hm body).bind fun body' _ h => ?_
    exact (guarded_requireRef _ r).bind fun _ _ _ => h.mkBlock r
  | pass r => by
    rw [subst]
    exact (guarded_requireRef _ r).bind fun _ _ _ => .refl _
  | assign r t v o => by
    rw [subst]
    refine (guarded_subst hm t).bind fun t' _ ht => (guarded_subst hm v).bind fun v' _ hv => ?_
    refine (guarded_subst hm o).bind fun o' _ ho => (guarded_requireRef _ r).bind fun _ _ _ => ?_
    exact ⟨(ht.calls.append hv.calls).append ho.calls, hv.entered⟩
  | cond r t a b => by
    rw [subst]
    refine (guarded_subst hm t).bind fun t' _ ht => (guarded_subst hm a).bind fun a' _ ha => ?_
    refine (guarded_subst hm b).bind fun b' _ hb => (guarded_requireRef _ r).bind fun _ _ _ => ?_
    exact ⟨(ht.calls.append ha.calls).append hb.calls, ha.entered.append hb.entered⟩
  | ret r v => by
    rw [subst]
    refine (guarded_subst hm v).bind fun v' _ hv => (guarded_requireRef _ r).bind fun _ _ _ => ?_
    exact ⟨hv.calls, .nil _⟩
  | bareCall r c => by
    rw [subst]
    refine (guarded_subst hm c).bind fun c' _ hc => (guarded_requireRef _ r).bind fun _ _ _ => ?_
    exact ⟨hc.calls, hc.entered⟩
  | var r n t s i => by
    rw [subst]
    refine (guarded_subst hm n).bind fun n' _ hn => (guarded_subst hm t).bind fun t' _ ht => ?_
    refine (guarded_subst hm s).bind fun s' _ hs => (guarded_subst hm i).bind fun i' _ hi => ?_
    refine (guarded_requireRef _ r).bind fun _ _ _ => ?_
    exact ⟨((hn.calls.append ht.calls).append hs.calls).append hi.calls, .nil _⟩
  | cls r n fs ps => by
    rw [subst]
    refine (guarded_subst hm n).bind fun _ _ _ => (guarded_subst hm fs).bind fun _ _ _ => ?_
    exact (guarded_subst hm ps).bind fun _ _ _ => id
  | func r n as b gs ls => by
    rw [subst]
    refine (guarded_subst hm n).bind fun n' _ hn => (guarded_subst hm as).bind fun as' _ has => ?_
    refine (guarded_subst hm b).bind fun b' _ hb => (guarded_subst hm gs).bind fun gs' _ hgs => ?_
    refine (guarded_subst hm ls).bind fun ls' _ hls => (guarded_requireRef _ r).bind fun _ _ _ => ?_
    exact ⟨(((hn.calls.append has.calls).append hb.calls).append hgs.calls).append hls.calls,
      .nil _⟩
  | bare r kind => by
    rw [subst]
    exact (guarded_requireRef _ r).bind fun _ _ _ => .refl _

theorem guarded_substItems (hm : m.Quiet) :
    ∀ cs : List Code, Guarded (fun cs' => Derived (tuple cs) (tuple cs')) (substItems m cs)
  | [] => .refl _
  | c :: rest => by
    rw [substItems]
    split
    · refine (guarded_subst hm c).bind fun c' _ hc => ?_
      exact (guarded_substAll hm rest).bind fun rest' _ hrest => hc.cons hrest
    · exact .refl _

theorem guarded_substAll (hm : m.Quiet) :
    ∀ cs : List Code, Guarded (fun cs' => Derived (tuple cs) (tuple cs')) (substAll m cs)
  | [] => .refl _
  | c :: rest => by
    rw [substAll]
    refine (guarded_requireNode _ c).bind fun _ _ _ => (guarded_subst hm c).bind fun c' _ hc => ?_
    exact (guarded_substAll hm rest).bind fun rest' _ hrest => hc.cons hrest

end

theorem guarded_bind (hm : m.Quiet) (mode : BindMode) (c : Code) :
    Guarded (Derived c) (c.bind m mode) := by
  fun_induction Code.bind m mode c with
  | case1 | case2 | case4 | case9 | case11 => exact id
  | case3 r t v o ht hv =>
    refine ht.bind fun t' _ ht => hv.bind fun v' _ hv => ?_
    refine (guarded_requireRef _ r).bind fun _ _ _ => ?_
    exact ⟨(ht.calls.append hv.calls).append (.refl _), hv.entered⟩
  | case5 mode r v a hv =>
    refine hv.bind fun v' _ hv => (guarded_requireRef _ r).bind fun _ _ _ => ?_
    exact ⟨hv.calls.append (.refl _), .nil _⟩
  | case6 mode r v i hv hi =>
    refine hv.bind fun v' _ hv => hi.bind fun i' _ hi => ?_
    exact (guarded_requireRef _ r).bind fun _ _ _ => ⟨hv.calls.append hi.calls, .nil _⟩
  | case7 => exact .refl _
  | case8 => exact guarded_substName hm ..
  | case10 => exact guarded_subst hm _

mutual

theorem guarded_normalReturns :
    ∀ c : Code, Guarded (fun c' => c'.entered ⊆ c.entered) c.normalReturns
  | block r body => by
    rw [normalReturns]
    refine (guarded_normalItems body).bind fun items _ hitems => ?_
    refine (guarded_requireRef _ r).bind fun _ _ _ => ?_
    show enteredAll (flattenAll items) ⊆ enteredAll body
    rw [enteredAll_flattenAll]
    exact hitems
  | tuple items => by
    rw [normalReturns]
    exact (guarded_normalItems items).bind fun _ _ _ => not_stray_originError _
  | datum d => by
    cases d with
    | str s => exact not_stray_originError _
    | _ => exact id
  | const .. | op .. | name .. | attr .. | item .. | call .. | pass _ | assign .. | cond ..
  | ret .. | bareCall .. | var .. | cls .. | func .. | bare .. => id

theorem guarded_normalItems :
    ∀ cs : List Code, Guarded (fun cs' => enteredAll cs' ⊆ enteredAll cs) (normalItems cs)
  | [] => List.Subset.refl _
  | c :: rest => by
    have hmore (d : Code) (hd : d.entered ⊆ c.entered) :
        Guarded (fun cs' => enteredAll cs' ⊆ enteredAll (c :: rest))
          (do return d :: (← normalItems rest)) := by
      refine (guarded_normalItems rest).bind fun more _ hmore => ?_
      intro p hp
      rw [enteredAll, mem_append] at hp ⊢
      exact hp.imp (fun h => hd h) fun h => hmore h
    cases c with
    | ret r v => exact nil_subset _
    | cond r t a b =>
      rw [normalItems]
      refine (guarded_normalReturns a).bind fun a' _ ha => ?_
      refine (guarded_normalReturns b).bind fun b' _ hb => ?_
      refine (guarded_requireRef _ r).bind fun _ _ _ => ?_
      have hcond : (cond r t a' b').entered ⊆ (cond r t a b).entered := by
        intro p hp
        rw [entered, mem_append] at hp ⊢
        exact hp.imp (fun h => ha h) fun h => hb h
      split
      · intro p hp
        rw [enteredAll, enteredAll, append_nil] at hp
        rw [enteredAll]
        exact mem_append_left _ (hcond hp)
      · split
        · exact (guarded_normalItems rest).bind fun _ _ _ => not_stray_originError _
        · exact hmore _ hcond
    | _ =>
      rw [normalItems]
      · exact hmore _ (List.Subset.refl _)
      all_goals simp

end

/-! ## Inlining -/

section Inline

variable {enter : Enter} {target aug : Code}

/-- The calls of a list have no calls among their arguments, and their functions can be entered
without going astray, whatever arguments without calls they are given. -/
def Enter.Admits (enter : Enter) (ps : List (Code × Code)) : Prop :=
  ∀ p ∈ ps, p.2.calls = [] ∧ ∃ f, p.1 = text f ∧
    ∀ args target aug, args.calls = [] → Guarded (fun _ => True) (enter (text f) args target aug)

theorem Enter.Admits.arise {ps ps' : List (Code × Code)} (h : Enter.Admits enter ps)
    (harise : Arise ps ps') : Enter.Admits enter ps' := by
  intro p' hp'
  obtain ⟨p, hp, hfunction, hargs⟩ := harise p' hp'
  obtain ⟨hquiet, f, hf, henter⟩ := h p hp
  exact ⟨hargs hquiet, f, hfunction f hf, henter⟩

theorem Enter.Admits.append_iff {ps qs : List (Code × Code)} :
    Enter.Admits enter (ps ++ qs) ↔ Enter.Admits enter ps ∧ Enter.Admits enter qs :=
  forall_mem_append

theorem Enter.Admits.guarded {f args : Code} (h : Enter.Admits enter [(f, args)])
    (target aug : Code) :
    Guarded (fun _ => True) (enter f args target aug) := by
  obtain ⟨hquiet, g, hg, henter⟩ := h _ mem_cons_self
  obtain rfl : f = text g := hg
  exact henter args target aug hquiet

theorem guarded_reblock (parent : Code) (items : List Code) :
    Guarded (fun _ => True) (reblock parent items) := by
  unfold reblock
  split
  · exact (guarded_requireRef _ _).bind fun _ _ _ => trivial
  · exact not_stray_originError parent

theorem guarded_inlineRet (target aug : Code) (r : Option Origin) (v : Code) :
    Guarded (fun _ => True) (inlineRet target aug r v) := by
  unfold inlineRet
  split
  · exact trivial
  · exact not_stray_error _ (by decide)
  · exact not_stray_error _ (by decide)
  · exact (guarded_requireRef _ r).bind fun _ _ _ => trivial

theorem guarded_inlineBareCall {c : Code} (h : Enter.Admits enter c.entered) :
    Guarded (fun _ => True) (inlineBareCall enter c) := by
  unfold inlineBareCall
  split
  · exact h.guarded _ _
  · exact id
  · unfold calledWith
    split <;> exact id
  · exact id

mutual

/-- Inlining a statement goes astray only in a call that it enters. -/
theorem guarded_inlineWith :
    ∀ c : Code, Enter.Admits enter c.entered → Guarded (fun _ => True)
      (inlineWith enter target aug c)
  | pass r, _ => trivial
  | assign r t v o, h => by
    rw [inlineWith.eq_def]
    dsimp only
    split
    · exact Enter.Admits.guarded h _ _
    · exact trivial
  | cond r t a b, h => by
    rw [entered, Enter.Admits.append_iff] at h
    obtain ⟨ha, hb⟩ := h
    rw [inlineWith]
    refine (guarded_inlineBranch a ha).bind fun body _ _ => ?_
    refine (guarded_reblock a body).bind fun a' _ _ => ?_
    refine (guarded_inlineBranch b hb).bind fun orelse _ _ => ?_
    refine (guarded_reblock b orelse).bind fun b' _ _ => ?_
    exact (guarded_requireRef _ r).bind fun _ _ _ => trivial
  | ret r v, _ => guarded_inlineRet target aug r v
  | bareCall _ c, h => guarded_inlineBareCall h
  | bare _ kind, _ => by
    cases kind <;> exact id
  | block .., _ | datum _, _ | tuple _, _ | const .., _ | op .., _ | name .., _ | attr .., _
  | item .., _ | call .., _ | var .., _ | cls .., _ | func .., _ => id

theorem guarded_inlineBranch :
    ∀ c : Code, Enter.Admits enter c.entered →
      Guarded (fun _ => True) (inlineBranch enter target aug c)
  | block _ body, h => guarded_inlineAll body h
  | tuple items, h => guarded_inlineAll items h
  | datum d, _ => by
    cases d with
    | str s =>
      rw [inlineBranch]
      split
      · exact trivial
      · exact id
    | _ => exact id
  | const .., _ | op .., _ | name .., _ | attr .., _ | item .., _ | call .., _ | pass _, _
  | assign .., _ | cond .., _ | ret .., _ | bareCall .., _ | var .., _ | cls .., _ | func .., _
  | bare .., _ => id

theorem guarded_inlineAll :
    ∀ cs : List Code, Enter.Admits enter (enteredAll cs) →
      Guarded (fun _ => True) (inlineAll enter target aug cs)
  | [], _ => trivial
  | c :: rest, h => by
    rw [enteredAll, Enter.Admits.append_iff] at h
    obtain ⟨hc, hrest⟩ := h
    rw [inlineAll]
    refine (guarded_inlineWith c hc).bind fun first _ _ => ?_
    exact (guarded_inlineAll rest hrest).bind fun more _ _ => trivial

end

theorem guarded_inlineBody {σ : Substitution} (hσ : σ.Quiet) (hm : m.Quiet) {body : List Code}
    (h : Enter.Admits enter (enteredAll body)) :
    Guarded (fun _ => True) (inlineBody enter target aug σ m body) := by
  induction body with
  | nil => exact trivial
  | cons c rest ih =>
    rw [enteredAll, Enter.Admits.append_iff] at h
    rw [inlineBody]
    refine (guarded_requireNode _ c).bind fun _ _ _ => ?_
    refine (guarded_subst hσ c).bind fun renamed _ hrenamed => ?_
    refine (guarded_bind hm .usual renamed).bind fun bound _ hbound => ?_
    have hadmits := (h.1.arise hrenamed.entered).arise hbound.entered
    refine (guarded_inlineWith bound hadmits).bind fun first _ _ => ?_
    exact (ih h.2).bind fun more _ _ => trivial

end Inline

end Code

end DataDiagram
