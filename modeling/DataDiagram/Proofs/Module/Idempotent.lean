import DataDiagram.Proofs.Module.Graph
/-!
# Scoping again

A module that has been cut down to some functions is cut down to itself, whatever order its
functions are gone through in.  Once locals have become variables there is nothing left to replace,
a function calls what it called before, and following these calls reaches the same functions.
-/

namespace DataDiagram

open List

namespace CallSite

/-- What a call is followed by: whether it stands under an operator, and what it calls. -/
def key (s : CallSite) : Bool × Code := (s.underOp, s.callee)

end CallSite

/-! ## Replacing nothing -/

namespace Code

open CallSite

variable {calls : Bool} {c c' : Code} {cs cs' body body' : List Code} {m : Substitution}
  {ρ : String → String}

/-- Code that replacing nothing keeps, with the calls that it had before. -/
structure Lasting (c c' : Code) : Prop where
  isNode : c'.isNode = true
  again : ∀ m : Substitution, (∀ x, m x = none) → c'.subst m = .ok c'
  keys : ∀ b, (c'.sites b).map key = (c.sites b).map key

theorem lasting_substAll (h : ∀ c ∈ cs, ∀ c', c.subst m = .ok c' → Lasting c c')
    (hcs : substAll m cs = .ok cs') :
    (∀ c ∈ cs', c.isNode = true) ∧
      (∀ m : Substitution, (∀ x, m x = none) → substAll m cs' = .ok cs') ∧
      ∀ b, (sitesAll b cs').map key = (sitesAll b cs).map key := by
  induction cs generalizing cs' with
  | nil =>
    cases hcs
    exact ⟨forall_mem_nil _, fun _ _ => rfl, fun _ => rfl⟩
  | cons c cs ih =>
    rw [forall_mem_cons] at h
    obtain ⟨d, ds, hd, hds, rfl⟩ := substAll_cons_eq_ok hcs
    obtain ⟨hnodes, hagain, hkeys⟩ := ih h.2 hds
    have hlasting := h.1 d hd
    refine ⟨forall_mem_cons.2 ⟨hlasting.isNode, hnodes⟩, fun m₀ hm₀ => ?_, fun b => ?_⟩
    · rw [substAll, requireNode, if_pos hlasting.isNode, hlasting.again m₀ hm₀, hagain m₀ hm₀]
      rfl
    · rw [sitesAll, sitesAll, map_append, map_append, hlasting.keys, hkeys]

theorem Expression.lasting (hm : m.Relabels ρ) (h : Expression calls c) (hc : c.subst m = .ok c') :
    Lasting c c' := by
  induction h generalizing c' with
  | const =>
    simp only [subst, bind_eq_ok_iff] at hc
    obtain ⟨_, hv, _, hr, hpure⟩ := hc
    cases hv
    cases hpure
    refine ⟨rfl, fun m₀ _ => ?_, fun _ => rfl⟩
    rw [subst, subst, hr]
    rfl
  | @name _ r x =>
    have hname : ∃ y, c' = nameOf r y := by
      rw [subst, substName] at hc
      rcases hm x with ⟨hnone, -⟩ | hsome
      · simp only [hnone] at hc
        exact ⟨x, (Except.ok.inj hc).symm⟩
      · simp only [hsome, replaceName, bind_eq_ok_iff] at hc
        obtain ⟨_, -, hpure⟩ := hc
        exact ⟨ρ x, (Except.ok.inj hpure).symm⟩
    obtain ⟨y, rfl⟩ := hname
    exact ⟨rfl, fun m₀ hm₀ => subst_nameOf_of_none (hm₀ y) r, fun _ => rfl⟩
  | op hops ih =>
    simp only [subst, bind_eq_ok_iff] at hc
    obtain ⟨_, ho, _, ⟨operands, hoperands, htuple⟩, _, hr, hpure⟩ := hc
    cases ho
    cases htuple
    cases hpure
    rw [substItems_eq_substAll m fun c hc => (hops c hc).isNode] at hoperands
    obtain ⟨hnodes, hagain, hkeys⟩ := lasting_substAll (fun c hc _ => ih c hc) hoperands
    refine ⟨rfl, fun m₀ hm₀ => ?_, fun _ => hkeys true⟩
    rw [subst, subst, subst, substItems_eq_substAll m₀ hnodes, hagain m₀ hm₀, hr]
    rfl
  | attr hv ih =>
    simp only [subst, bind_eq_ok_iff] at hc
    obtain ⟨v, hv', _, ha, _, hr, hpure⟩ := hc
    cases ha
    cases hpure
    have hvalue := ih hv'
    refine ⟨rfl, fun m₀ hm₀ => ?_, hvalue.keys⟩
    rw [subst, subst, hvalue.again m₀ hm₀, hr]
    rfl
  | item hv hi ihv ihi =>
    simp only [subst, bind_eq_ok_iff] at hc
    obtain ⟨v, hv', i, hi', _, hr, hpure⟩ := hc
    cases hpure
    have hvalue := ihv hv'
    have hindex := ihi hi'
    refine ⟨rfl, fun m₀ hm₀ => ?_, fun b => ?_⟩
    · rw [subst, hvalue.again m₀ hm₀, hindex.again m₀ hm₀, hr]
      rfl
    · rw [sites, sites, map_append, map_append, hvalue.keys, hindex.keys]
  | call hargs ih =>
    simp only [subst, bind_eq_ok_iff] at hc
    obtain ⟨_, hf, _, ⟨args, hargs', htuple⟩, _, hr, hpure⟩ := hc
    cases hf
    cases htuple
    cases hpure
    rw [substItems_eq_substAll m fun c hc => (hargs c hc).isNode] at hargs'
    obtain ⟨hnodes, hagain, -⟩ := lasting_substAll (fun c hc _ => ih c hc) hargs'
    refine ⟨rfl, fun m₀ hm₀ => ?_, fun _ => rfl⟩
    rw [subst, subst, subst, substItems_eq_substAll m₀ hnodes, hagain m₀ hm₀, hr]
    rfl

variable {r : Option Origin}

theorem lasting_assign {t v : Code} {aug : Option String} (hm : m.Relabels ρ)
    (ht : Expression true t) (hv : Expression true v)
    (hc : (Code.assign r t v (ofText? aug)).subst m = .ok c') :
    Lasting (.assign r t v (ofText? aug)) c' := by
  simp only [subst, subst_ofText?, bind_eq_ok_iff] at hc
  obtain ⟨t', ht', v', hv', _, ho, _, hr, hpure⟩ := hc
  cases ho
  cases hpure
  have htarget := ht.lasting hm ht'
  have hvalue := hv.lasting hm hv'
  refine ⟨rfl, fun m₀ hm₀ => ?_, fun b => ?_⟩
  · rw [subst, subst_ofText?, htarget.again m₀ hm₀, hvalue.again m₀ hm₀, hr]
    rfl
  · rw [sites, sites, map_append, map_append, htarget.keys, hvalue.keys]

theorem lasting_block (hm : m.Relabels ρ) (hbody : ∀ c ∈ body, IsStatement c)
    (h : ∀ c ∈ body, ∀ c', c.subst m = .ok c' → Lasting c c')
    (hc : (Code.block r body).subst m = .ok c') : Lasting (.block r body) c' := by
  simp only [subst, bind_eq_ok_iff, substItems_eq_substAll m fun c hc => (hbody c hc).isNode] at hc
  obtain ⟨body', hbody', _, hr, hpure⟩ := hc
  have hstmts : ∀ c ∈ body', IsStatement c :=
    Statement.substAll_eq_ok (fun c hc _ => Statement.isStatement_subst hm (hbody c hc)) hbody'
  obtain ⟨hnodes, hagain, hkeys⟩ := lasting_substAll h hbody'
  rw [(Statement.flat hstmts).mkBlock] at hpure
  cases hpure
  refine ⟨rfl, fun m₀ hm₀ => ?_, hkeys⟩
  rw [subst, substItems_eq_substAll m₀ hnodes, hagain m₀ hm₀, hr]
  exact congrArg Except.ok ((Statement.flat hstmts).mkBlock r)

/-- Once its names have been replaced by names, a statement stays as it is. -/
theorem Statement.lasting (hm : m.Relabels ρ) (h : IsStatement c) (hc : c.subst m = .ok c') :
    Lasting c c' := by
  induction h generalizing c' with
  | pass =>
    simp only [Code.subst, bind_eq_ok_iff] at hc
    obtain ⟨_, hr, hpure⟩ := hc
    cases hpure
    refine ⟨rfl, fun m₀ _ => ?_, fun _ => rfl⟩
    rw [Code.subst, hr]
    rfl
  | assign ht hv => exact lasting_assign hm ht.2 hv hc
  | assignCall ht hcall => exact lasting_assign hm ht.2 hcall.expression hc
  | @cond r t ra a rb b ht ha hb iha ihb =>
    rw [Code.subst] at hc
    simp only [bind_eq_ok_iff] at hc
    obtain ⟨t', ht', a', ha', b', hb', _, hr, hpure⟩ := hc
    cases hpure
    have htest := ht.lasting hm ht'
    have hthen := lasting_block hm ha (fun c hc _ => iha c hc) ha'
    have helse := lasting_block hm hb (fun c hc _ => ihb c hc) hb'
    refine ⟨rfl, fun m₀ hm₀ => ?_, fun b => ?_⟩
    · rw [Code.subst, htest.again m₀ hm₀, hthen.again m₀ hm₀, helse.again m₀ hm₀, hr]
      rfl
    · rw [sites, sites]
      simp only [map_append, htest.keys, hthen.keys, helse.keys]
  | ret hv =>
    simp only [Code.subst, bind_eq_ok_iff] at hc
    obtain ⟨v', hv', _, hr, hpure⟩ := hc
    cases hpure
    have hvalue := hv.lasting hm hv'
    refine ⟨rfl, fun m₀ hm₀ => ?_, hvalue.keys⟩
    rw [Code.subst, hvalue.again m₀ hm₀, hr]
    rfl
  | bareRet =>
    simp only [Code.subst, bind_eq_ok_iff] at hc
    obtain ⟨_, hv, _, hr, hpure⟩ := hc
    cases hv
    cases hpure
    refine ⟨rfl, fun m₀ _ => ?_, fun _ => rfl⟩
    rw [Code.subst, Code.subst, hr]
    rfl
  | bareCall hcall =>
    simp only [Code.subst, bind_eq_ok_iff] at hc
    obtain ⟨v', hv', _, hr, hpure⟩ := hc
    cases hpure
    have hvalue := hcall.expression.lasting hm hv'
    refine ⟨rfl, fun m₀ hm₀ => ?_, hvalue.keys⟩
    rw [Code.subst, hvalue.again m₀ hm₀, hr]
    rfl

end Code

open Code CallSite

/-! ## Functions without locals -/

namespace Func

variable {f g : Func}

theorem HasStatements.lasting (h : f.HasStatements) (hlift : f.liftLocals = .ok g) :
    g.liftLocals = .ok g ∧
      (g.body.sites false).map key = (f.body.sites false).map key := by
  obtain ⟨body, hbody, hstmts⟩ := h
  obtain ⟨hitems, hsites⟩ : f.body.items = .ok body ∧ f.body.sites false = sitesAll false body := by
    rcases hbody with hbody | ⟨r, hbody⟩
    all_goals
      rw [hbody]
      exact ⟨rfl, rfl⟩
  simp only [Func.liftLocals, bind_eq_ok_iff] at hlift
  obtain ⟨vars, -, _, hitems', body', hbody', _, hr, hpure⟩ := hlift
  cases hitems.symm.trans hitems'
  cases hpure
  obtain ⟨-, hagain, hkeys⟩ :=
    lasting_substAll (fun c hc _ => (hstmts c hc).lasting f.relabels_lifting) hbody'
  rw [hsites]
  refine ⟨?_, hkeys false⟩
  unfold Func.liftLocals
  simp only [bind_eq_ok_iff]
  exact ⟨[], rfl, body', rfl, body', hagain _ fun _ => rfl, (), hr, by rw [append_nil]; rfl⟩

end Func

/-! ## Following calls in both modules -/

/-- The functions among what has been reached are listed. -/
def Listed (all : List String) (names : List Datum) : Prop := ∀ n, Among names n → n ∈ all

theorem Listed.append_iff {all : List String} {names names' : List Datum} :
    Listed all (names ++ names') ↔ Listed all names ∧ Listed all names' := by
  refine ⟨fun h => ⟨fun n hn => h n (mem_append_left _ hn),
    fun n hn => h n (mem_append_right _ hn)⟩,
    fun h n hn => ?_⟩
  exact (mem_append.1 hn).elim (h.1 n) (h.2 n)

theorem Listed.of_cons {all : List String} {d : Datum} {names : List Datum}
    (h : Listed all (d :: names)) : Listed all names := fun n hn => h n (mem_cons_of_mem d hn)

/-- What one way follows to functions of a list, the other follows to the same functions, with
whatever else there is on the stack. -/
def Mimics (all stack : List String) (follow follow' : Follow) : Prop :=
  ∀ more c c' callee names, follow (stack ++ more) c callee = .ok names → Listed all names →
    follow' (stack ++ more) c' callee = .ok names

section Mimics

variable {all stack : List String} {names : List Datum} {follow follow' : Follow}

theorem Mimics.extend (h : Mimics all stack follow follow') (more : List String) :
    Mimics all (stack ++ more) follow follow' := by
  intro rest c c' callee names
  rw [append_assoc]
  exact h (more ++ rest) c c' callee names

theorem Mimics.follow_eq_ok (h : Mimics all stack follow follow') {c callee : Code} (c' : Code)
    (hfollow : follow stack c callee = .ok names) (hlisted : Listed all names) :
    follow' stack c' callee = .ok names := by
  have hnil := h [] c c' callee names
  rw [append_nil] at hnil
  exact hnil hfollow hlisted

theorem Mimics.visitAll (h : Mimics all stack follow follow') {ss ss' : List CallSite}
    (hkeys : ss'.map key = ss.map key) (hlisted : Listed all names)
    (hss : visitAll follow stack ss = .ok names) :
    CallSite.visitAll follow' stack ss' = .ok names := by
  induction ss generalizing ss' names with
  | nil =>
    obtain rfl := map_eq_nil_iff.1 hkeys
    exact hss
  | cons s ss ih =>
    obtain ⟨s', rest, rfl, hs, hrest⟩ := map_eq_cons_iff.1 hkeys
    obtain ⟨hop, hcallee⟩ := Prod.mk.injEq .. ▸ hs
    simp only [CallSite.visitAll, bind_eq_ok_iff] at hss ⊢
    obtain ⟨own, hown, more, hmore, hpure⟩ := hss
    cases hpure
    obtain ⟨hlistedOwn, hlistedMore⟩ := Listed.append_iff.1 hlisted
    refine ⟨own, ?_, more, ih hrest hlistedMore hmore, rfl⟩
    unfold visit at hown ⊢
    rw [hop, hcallee]
    cases hunder : s.underOp with
    | true =>
      rw [hunder] at hown
      cases hown
    | false =>
      rw [hunder] at hown
      exact h.follow_eq_ok _ hown hlistedOwn

theorem Mimics.reachedCall (h : Mimics all stack follow follow') {fields : List (String × Datum)}
    (hlisted : Listed all names) (hcall : Datum.reachedCall follow stack fields = .ok names) :
    Datum.reachedCall follow' stack fields = .ok names := by
  unfold Datum.reachedCall at hcall ⊢
  split at hcall
  · cases hcall
  · split at hcall
    · cases hcall
    · next hhash => exact h.follow_eq_ok _ hcall hlisted

mutual

theorem Mimics.reached :
    ∀ (d : Datum) {stack : List String} {forbidden : Bool} {names : List Datum},
      Mimics all stack follow follow' → Listed all names →
      d.reached follow forbidden stack = .ok names → d.reached follow' forbidden stack = .ok names
  | .tuple items, _, _, _, h, hlisted, hd => Mimics.reachedAll items h hlisted hd
  | .record kind fields, stack, forbidden, names, h, hlisted, hd => by
    rw [Datum.reached] at hd ⊢
    split at hd
    · next hkind =>
        rw [if_pos hkind]
        split at hd
        · exact nomatch hd
        · next hforbidden =>
            rw [if_neg hforbidden]
            exact h.reachedCall hlisted hd
    · next hcall =>
        rw [if_neg hcall]
        split at hd
        · next hkind =>
            rw [if_pos hkind]
            split at hd
            · exact nomatch hd
            · split at hd
              · exact nomatch hd
              · next hhash =>
                  obtain ⟨own, hown, hpure⟩ := bind_eq_ok_iff.1 hd
                  cases hpure
                  have hbody := Mimics.reachedBody fields (h.extend _) hlisted.of_cons hown
                  exact bind_eq_ok_iff.2 ⟨own, hbody, rfl⟩
        · next hkind =>
            rw [if_neg hkind]
            exact hd
  | .none, _, _, _, _, _, hd | .ellipsis, _, _, _, _, _, hd | .bool _, _, _, _, _, _, hd
  | .int _, _, _, _, _, _, hd | .float _, _, _, _, _, _, hd | .complex _, _, _, _, _, _, hd
  | .str _, _, _, _, _, _, hd | .bytes _, _, _, _, _, _, hd | .list _, _, _, _, _, _, hd
  | .set _, _, _, _, _, _, hd | .dict _, _, _, _, _, _, hd | .range .., _, _, _, _, _, hd
  | .named .., _, _, _, _, _, hd => hd

theorem Mimics.reachedAll :
    ∀ (ds : List Datum) {stack : List String} {forbidden : Bool} {names : List Datum},
      Mimics all stack follow follow' → Listed all names →
      Datum.reachedAll follow forbidden stack ds = .ok names →
      Datum.reachedAll follow' forbidden stack ds = .ok names
  | [], _, _, _, _, _, hds => hds
  | d :: rest, _, _, _, h, hlisted, hds => by
    simp only [Datum.reachedAll, bind_eq_ok_iff] at hds ⊢
    obtain ⟨own, hown, more, hmore, hpure⟩ := hds
    cases hpure
    obtain ⟨hlistedOwn, hlistedMore⟩ := Listed.append_iff.1 hlisted
    exact ⟨own, Mimics.reached d h hlistedOwn hown, more,
      Mimics.reachedAll rest h hlistedMore hmore, rfl⟩

theorem Mimics.reachedBody :
    ∀ (fields : List (String × Datum)) {stack : List String} {forbidden : Bool}
    {names : List Datum},
      Mimics all stack follow follow' → Listed all names →
      Datum.reachedBody follow forbidden stack fields = .ok names →
      Datum.reachedBody follow' forbidden stack fields = .ok names
  | [], _, _, _, _, _, hfields => nomatch hfields
  | (_, d) :: rest, stack, forbidden, names, h, hlisted, hfields => by
    unfold Datum.reachedBody at hfields ⊢
    split at hfields
    · next hname =>
        rw [if_pos hname]
        cases d with
        | tuple items | list items | set items => exact Mimics.reachedAll items h hlisted hfields
        | dict entries => exact Mimics.reachedKeys entries h hlisted hfields
        | _ => exact hfields
    · next hname =>
        rw [if_neg hname]
        exact Mimics.reachedBody rest h hlisted hfields

theorem Mimics.reachedKeys :
    ∀ (entries : List (Datum × Datum)) {stack : List String} {forbidden : Bool}
    {names : List Datum},
      Mimics all stack follow follow' → Listed all names →
      Datum.reachedKeys follow forbidden stack entries = .ok names →
      Datum.reachedKeys follow' forbidden stack entries = .ok names
  | [], _, _, _, _, _, hentries => hentries
  | (k, _) :: rest, _, _, _, h, hlisted, hentries => by
    simp only [Datum.reachedKeys, bind_eq_ok_iff] at hentries ⊢
    obtain ⟨own, hown, more, hmore, hpure⟩ := hentries
    cases hpure
    obtain ⟨hlistedOwn, hlistedMore⟩ := Listed.append_iff.1 hlisted
    exact ⟨own, Mimics.reached k h hlistedOwn hown, more,
      Mimics.reachedKeys rest h hlistedMore hmore, rfl⟩

end

mutual

theorem Mimics.reachedObjects (h : Mimics all stack follow follow') :
    ∀ (c : Code) {names : List Datum}, Listed all names →
      reachedObjects follow stack c = .ok names → Code.reachedObjects follow' stack c = .ok names
  | .datum d, names, hlisted, hc => by
    cases d with
    | record kind fields => exact Mimics.reached _ h hlisted hc
    | _ => exact hc
  | .tuple items, names, hlisted, hc => h.reachedObjectsAll items hlisted hc
  | .const .., _, _, hc | .op .., _, _, hc | .name .., _, _, hc | .attr .., _, _, hc
  | .item .., _, _, hc | .call .., _, _, hc | .block .., _, _, hc | .pass _, _, _, hc
  | .assign .., _, _, hc | .cond .., _, _, hc | .ret .., _, _, hc | .bareCall .., _, _, hc
  | .var .., _, _, hc | .cls .., _, _, hc | .func .., _, _, hc | .bare .., _, _, hc => hc

theorem Mimics.reachedObjectsAll (h : Mimics all stack follow follow') :
    ∀ (cs : List Code) {names : List Datum}, Listed all names →
      reachedObjectsAll follow stack cs = .ok names →
      Code.reachedObjectsAll follow' stack cs = .ok names
  | [], _, _, hcs => hcs
  | c :: rest, names, hlisted, hcs => by
    simp only [Code.reachedObjectsAll, bind_eq_ok_iff] at hcs ⊢
    obtain ⟨own, hown, more, hmore, hpure⟩ := hcs
    cases hpure
    obtain ⟨hlistedOwn, hlistedMore⟩ := Listed.append_iff.1 hlisted
    exact ⟨own, h.reachedObjects c hlistedOwn hown, more,
      h.reachedObjectsAll rest hlistedMore hmore, rfl⟩

end

end Mimics

namespace Module

variable {m s : Module} {f g : Func} {depth depth' : Nat} {all stack names : List String}

def Mirrors (m s : Module) (all : List String) : Prop :=
  ∀ n ∈ all, ∃ f g, Table.find? m.functions n = some f ∧ f.liftLocals = .ok g ∧
    Table.find? s.functions n = some g

/-- The variables of a function start as before when it has no locals. -/
theorem Settled.plain_liftLocals (hm : m.Settled) (hf : f ∈ m.functions)
    (hlift : f.liftLocals = .ok g) : (∀ v ∈ g.globals ++ g.locals, v.Plain) ∧
      (g.globals ++ g.locals).map Var.init = (f.globals ++ f.locals).map Var.init := by
  obtain ⟨_, _, -, -, rfl⟩ := Func.liftLocals_eq_ok hlift
  have hplain := hm.plain f hf
  refine ⟨fun v hv => ?_, ?_⟩
  · rw [append_nil] at hv
    rcases mem_append.1 hv with hv | hv
    · exact hplain v (mem_append_left _ hv)
    · obtain ⟨w, hw, rfl⟩ := mem_map.1 hv
      exact hplain w (mem_append_right _ hw)
  · rw [append_nil, map_append, map_append, map_map]
    rfl

theorem Settled.mimics_followAt (hm : m.Settled) (hmirror : m.Mirrors s all)
    (hroom : s.Room depth' stack) : Mimics all stack (m.followAt depth) (s.followAt depth') := by
  induction depth generalizing depth' stack with
  | zero =>
    intro more c c' callee names h
    obtain ⟨_, _, _, _, _, hdepth, -⟩ := followAt_eq_ok h
    exact nomatch hdepth
  | succ depth ih =>
    intro more c c' callee names h hlisted
    obtain ⟨_, n, f, own, rest, hdepth, rfl, hnew, hf, hown, hrest, rfl⟩ := followAt_eq_ok h
    cases hdepth
    have hn := hlisted n mem_cons_self
    obtain ⟨hlistedOwn, hlistedRest⟩ := Listed.append_iff.1 hlisted.of_cons
    obtain ⟨f', g, hf', hlift, hg⟩ := hmirror n hn
    cases hf.symm.trans hf'
    have hmem := (Table.find?_eq_some hf).1
    have hstmts := (hm.wellFormed.functions f hmem).2.hasStatements
    obtain ⟨hplain, hinits⟩ := hm.plain_liftLocals hmem hlift
    obtain ⟨depth', rfl⟩ := hroom.exists_eq_succ
    have hmimics := ih ((hroom.append more).push hnew hg)
    rw [(hstmts.reached_eq _ _).1] at hown
    rw [reachedAll_codes (hm.plain f hmem), ← hinits] at hrest
    have hbody := hmimics.visitAll (hstmts.lasting hlift).2 hlistedOwn hown
    have hvars := hmimics.reachedObjectsAll _ hlistedRest hrest
    rw [followAt_succ, if_neg hnew, hg]
    simp only [reachedFrom, ((hstmts.liftLocals hlift).1.reached_eq _ _).1, hbody,
      reachedAll_codes hplain, hvars]
    rfl

theorem Settled.visited_mirror (hm : m.Settled) (hmirror : m.Mirrors s all)
    (hf : f ∈ m.functions) (hlift : f.liftLocals = .ok g)
    (hg : Table.find? s.functions g.name = some g) {names : List Datum}
    (h : m.visited f = .ok names) (hlisted : Listed all names) : s.visited g = .ok names := by
  have hstmts := (hm.wellFormed.functions f hf).2.hasStatements
  have hname := Func.name_of_liftLocals hlift
  have hstart : s.Room (s.functions.length + 3) [] := room_nil (by omega)
  have hroom := hstart.push not_mem_nil hg
  rw [visited, (hstmts.reached_eq _ _).2] at h
  rw [visited, ((hstmts.liftLocals hlift).1.reached_eq _ _).2, hname]
  exact (hm.mimics_followAt hmirror (hname ▸ hroom)).visitAll (hstmts.lasting hlift).2 hlisted h

end Module

/-! ## Tables in another order -/

variable {α β : Type}

theorem exists_mapM_eq_ok {ε : Type} {f : α → Except ε β} {as : List α}
    (h : ∀ a ∈ as, ∃ b, f a = .ok b) : ∃ bs, as.mapM f = .ok bs := by
  induction as with
  | nil => exact ⟨[], rfl⟩
  | cons a as ih =>
    rw [forall_mem_cons] at h
    obtain ⟨⟨b, hb⟩, hrest⟩ := h
    obtain ⟨bs, hbs⟩ := ih hrest
    refine ⟨b :: bs, ?_⟩
    rw [mapM_cons, hb, hbs]
    rfl

theorem findSome?_eq_of_perm {f : α → Option β} {l l' : List α} (hperm : l'.Perm l)
    (h : ∀ a ∈ l, ∀ b ∈ l, ∀ v w, f a = some v → f b = some w → v = w) :
    l'.findSome? f = l.findSome? f := by
  cases hl : l.findSome? f with
  | none =>
    rw [List.findSome?_eq_none_iff] at hl ⊢
    exact fun a ha => hl a (hperm.mem_iff.1 ha)
  | some v =>
    obtain ⟨a, ha, hv⟩ := exists_of_findSome?_eq_some hl
    have hsome : (l'.findSome? f).isSome = true := by
      rw [List.findSome?_isSome_iff]
      exact ⟨a, hperm.mem_iff.2 ha, hv ▸ rfl⟩
    obtain ⟨w, hw⟩ := Option.isSome_iff_exists.1 hsome
    obtain ⟨b, hb, hw'⟩ := exists_of_findSome?_eq_some hw
    rw [hw, h a ha b (hperm.mem_iff.1 hb) v w hv hw']

namespace Table

variable {α β : Type} [Named α] {table : List α}

theorem nodup_names_put (h : (names table).Nodup) (d : α) :
    (names (put table d)).Nodup := by
  induction table with
  | nil => exact nodup_singleton _
  | cons e rest ih =>
    obtain ⟨he, hrest⟩ := nodup_cons.1 h
    rw [put]
    split
    · next heq =>
        rw [names, map_cons, ← beq_iff_eq.1 heq]
        exact h
    · next hne =>
        refine nodup_cons.2 ⟨fun hmem => ?_, ih hrest⟩
        obtain ⟨e', he', hname⟩ := mem_map.1 hmem
        rcases mem_of_mem_put he' with rfl | he'
        · exact hne (beq_iff_eq.2 hname.symm)
        · exact he (hname ▸ mem_map_of_mem he')

theorem nodup_names_ofList (ds : List α) : (names (ofList ds)).Nodup := by
  suffices h : ∀ table : List α, (names table).Nodup → (names (putAll table ds)).Nodup from
    h [] nodup_nil
  induction ds with
  | nil => exact fun _ h => h
  | cons d ds ih => exact fun table h => ih (put table d) (nodup_names_put h d)

theorem perm_of_find?_eq {table' : List α} (h : (names table).Nodup)
    (h' : (names table').Nodup) (hfind : ∀ x, find? table x = find? table' x) :
    table.Perm table' := by
  refine (perm_ext_iff_of_nodup h.of_map h'.of_map).2 fun d => ⟨fun hd => ?_, fun hd => ?_⟩
  · exact (find?_eq_some ((hfind _).symm.trans (find?_of_mem h hd))).1
  · exact (find?_eq_some ((hfind _).trans (find?_of_mem h' hd))).1

/-- The table of the declarations of some parts does not depend on the order of the parts, if
different parts declare a name in the same way. -/
theorem perm_ofList_flatMap {G : β → List α} {gs gs' : List β} (hperm : gs'.Perm gs)
    (h : ∀ g ∈ gs, ∀ g' ∈ gs, ∀ v ∈ G g, ∀ w ∈ G g', Named.name v = Named.name w → g = g' ∨ v = w) :
    (ofList (gs'.flatMap G)).Perm (ofList (gs.flatMap G)) := by
  have hlast (gs : List β) (x : String) : find? (ofList (gs.flatMap G)) x =
      gs.reverse.findSome? fun g => (G g).reverse.find? fun d => Named.name d == x := by
    rw [ofList, find?_putAll, reverse_flatMap, List.find?_flatMap]
    simp [find?]
  refine perm_of_find?_eq (nodup_names_ofList _) (nodup_names_ofList _) fun x => ?_
  rw [hlast, hlast]
  refine findSome?_eq_of_perm
    (((reverse_perm gs').trans hperm).trans (reverse_perm gs).symm)
    fun g hg g' hg' v w hv hw => ?_
  have hname : Named.name v = Named.name w := by
    have hv' := List.find?_some hv
    have hw' := List.find?_some hw
    exact (beq_iff_eq.1 hv').trans (beq_iff_eq.1 hw').symm
  have hmem := mem_reverse.1 (mem_of_find?_eq_some hv)
  have hmem' := mem_reverse.1 (mem_of_find?_eq_some hw)
  rcases h g (mem_reverse.1 hg) g' (mem_reverse.1 hg') v hmem w hmem' hname with rfl | heq
  · exact Option.some.inj (hv.symm.trans hw)
  · exact heq

end Table

/-! ## Scoped modules -/

namespace Module

variable {m s : Module} {f g : Func} {functions selected names : List String}

/-- The same declarations, in whatever order. -/
structure Alike (m s : Module) : Prop where
  vars : m.vars.Perm s.vars
  classes : m.classes.Perm s.classes
  functions : m.functions.Perm s.functions

/-- The names that the locals of some functions get differ from each other and from the variables of
the module. -/
structure Apart (m : Module) (selected : List String) : Prop where
  distinct : ∀ f ∈ m.functions, f.name ∈ selected → ∀ x ∈ Table.names f.locals,
    ∀ f' ∈ m.functions, f'.name ∈ selected → ∀ x' ∈ Table.names f'.locals,
      f.localName x = f'.localName x' → f.name = f'.name ∧ x = x'
  vars : ∀ f ∈ m.functions, f.name ∈ selected → ∀ x ∈ Table.names f.locals,
    f.localName x ∉ Table.names m.vars

theorem Fresh.apart (h : m.Fresh selected) : m.Apart selected := ⟨h.distinct, h.vars⟩

/-- All that is reached from the functions asked for are functions. -/
theorem exists_visited (h : m.selected functions = .ok selected) {k : String}
    (hk : k ∈ m.asked functions) : ∃ f names, Table.find? m.functions k = some f ∧
      m.visited f = .ok names ∧ names.filter (fun d => d.text?.isNone) = [] ∧
      Listed selected names := by
  have hselected (n : String) := mem_selected_iff h (n := n)
  obtain ⟨sets, -, ⟨others, hothers, hnil⟩, -⟩ := selected_eq_ok h
  obtain ⟨set, hset⟩ := exists_reachable h k hk
  obtain ⟨f, hf, hreach⟩ := bind_eq_ok_iff.1 hset
  obtain ⟨names, hvisited, hpure⟩ := bind_eq_ok_iff.1 hreach
  cases hpure
  refine ⟨f, names, getFunction_eq_ok hf, hvisited, ?_, fun n hn => ?_⟩
  · obtain ⟨strange, hmem, hstrange⟩ := exists_mem_of_forall₂ (forall₂_of_mapM_eq_ok hothers) hk
    obtain ⟨f', hf', hstrange⟩ := bind_eq_ok_iff.1 hstrange
    cases hf.symm.trans hf'
    obtain ⟨names', hvisited', hpure⟩ := bind_eq_ok_iff.1 hstrange
    cases hvisited.symm.trans hvisited'
    cases hpure
    exact flatten_eq_nil_iff.1 hnil _ hmem
  · refine (hselected n).2 (.inr ⟨k, hk, _, hset, mem_eraseDups.2 (mem_cons_of_mem _ ?_)⟩)
    exact Datum.mem_texts.2 hn

theorem exists_selected (h : ∀ k ∈ m.asked functions, ∃ f names, Table.find? m.functions k =
      some f ∧
      m.visited f = .ok names ∧ names.filter (fun d => d.text?.isNone) = []) :
    ∃ selected, m.selected functions = .ok selected := by
  have hreach : ∀ k ∈ m.asked functions, ∃ set, (do m.reachable (← m.getFunction k)) = .ok set := by
    intro k hk
    obtain ⟨f, names, hf, hvisited, -⟩ := h k hk
    rw [getFunction, hf]
    exact ⟨_, bind_eq_ok_iff.2 ⟨f, rfl, bind_eq_ok_iff.2 ⟨names, hvisited, rfl⟩⟩⟩
  have hstrange : ∀ k ∈ m.asked functions, (do m.strangers (← m.getFunction k)) = .ok [] := by
    intro k hk
    obtain ⟨f, names, hf, hvisited, hnil⟩ := h k hk
    rw [getFunction, hf]
    exact bind_eq_ok_iff.2 ⟨f, rfl, bind_eq_ok_iff.2 ⟨names, hvisited, congrArg Except.ok hnil⟩⟩
  obtain ⟨sets, hsets⟩ := exists_mapM_eq_ok hreach
  obtain ⟨others, hothers⟩ := exists_mapM_eq_ok fun k hk => ⟨[], hstrange k hk⟩
  have hnil : others.flatten = [] := by
    refine flatten_eq_nil_iff.2 fun set hset => ?_
    obtain ⟨k, hk, hset⟩ := exists_mem_of_forall₂ (forall₂_of_mapM_eq_ok hothers).flip hset
    exact (Except.ok.inj ((hstrange k hk).symm.trans hset)).symm
  refine ⟨(m.asked functions ++ sets.flatten).eraseDups,
    bind_eq_ok_iff.2 ⟨sets, hsets, bind_eq_ok_iff.2 ⟨others, hothers, ?_⟩⟩⟩
  rw [hnil]
  rfl

section Scoped

variable (hsel : m.selected functions = .ok selected) (hperm : names.Perm selected)
  (hscope : m.scopeIn names = .ok s)

include hsel hperm hscope

theorem mirrors_scopeIn : m.Mirrors s selected ∧ Table.names s.functions = names := by
  have hnodup := hperm.nodup_iff.2 (nodup_selected hsel)
  obtain ⟨hall, hnames, -⟩ := scopeIn_eq_ok hnodup hscope
  refine ⟨fun n hn => ?_, hnames⟩
  obtain ⟨g, hg, f, hf, hlift⟩ := exists_mem_of_forall₂ hall (hperm.mem_iff.2 hn)
  have hname : g.name = n := (Func.name_of_liftLocals hlift).trans (Table.find?_eq_some hf).2
  exact ⟨f, g, hf, hlift, hname ▸ Table.find?_of_mem (hnames ▸ hnodup) hg⟩

theorem exists_unlifted_scopeIn (hg : g ∈ s.functions) : g.name ∈ selected ∧
    Table.find? s.functions g.name = some g ∧
      ∃ f, Table.find? m.functions g.name = some f ∧ f.liftLocals = .ok g := by
  obtain ⟨hmirror, hnames⟩ := mirrors_scopeIn hsel hperm hscope
  have hmem : g.name ∈ selected := hperm.mem_iff.1 (hnames ▸ mem_map_of_mem hg)
  have hfind : Table.find? s.functions g.name = some g :=
    Table.find?_of_mem (hnames ▸ hperm.nodup_iff.2 (nodup_selected hsel)) hg
  obtain ⟨f, g', hf, hlift, hg'⟩ := hmirror g.name hmem
  cases hfind.symm.trans hg'
  exact ⟨hmem, hfind, f, hf, hlift⟩

theorem Settled.mem_asked_scopeIn (hm : m.Settled) {n : String} :
    n ∈ s.asked functions ↔ n ∈ m.asked functions := by
  have hasked : m.asked functions ⊆ selected := fun k hk => (mem_selected_iff hsel).2 (.inl hk)
  obtain ⟨hmirror, -⟩ := mirrors_scopeIn hsel hperm hscope
  have hargs {f g : Func} (hlift : f.liftLocals = .ok g) : g.args = f.args := by
    obtain ⟨_, _, -, -, rfl⟩ := Func.liftLocals_eq_ok hlift
    rfl
  unfold asked at hasked ⊢
  split
  · next hempty =>
      rw [if_pos hempty] at hasked
      constructor
      · intro hn
        obtain ⟨g, hg, rfl⟩ := mem_map.1 hn
        obtain ⟨hg, hnone⟩ := mem_filter.1 hg
        obtain ⟨-, -, f, hf, hlift⟩ := exists_unlifted_scopeIn hsel hperm hscope hg
        obtain ⟨hmem, hname⟩ := Table.find?_eq_some hf
        rw [hargs hlift] at hnone
        exact mem_map.2 ⟨f, mem_filter.2 ⟨hmem, hnone⟩, hname⟩
      · intro hn
        obtain ⟨f, g, hf, hlift, hg⟩ := hmirror n (hasked hn)
        obtain ⟨f', hf', rfl⟩ := mem_map.1 hn
        obtain ⟨hmem, hnone⟩ := mem_filter.1 hf'
        cases hf.symm.trans (hm.wellFormed.functions f' hmem).1
        obtain ⟨hmem, hname⟩ := Table.find?_eq_some hg
        rw [← hargs hlift] at hnone
        exact mem_map.2 ⟨g, mem_filter.2 ⟨hmem, hnone⟩, hname⟩
  · rfl

theorem Settled.selected_scopeIn (hm : m.Settled) :
    ∃ selected', s.selected functions = .ok selected' ∧ selected'.Perm selected := by
  obtain ⟨hmirror, -⟩ := mirrors_scopeIn hsel hperm hscope
  have hasked {k : String} := hm.mem_asked_scopeIn hsel hperm hscope (n := k)
  -- The same is reached in both modules.
  have hvisit : ∀ k ∈ m.asked functions, ∃ f g names, Table.find? m.functions k = some f ∧
      Table.find? s.functions k = some g ∧ f.name = g.name ∧ m.visited f = .ok names ∧
      s.visited g = .ok names ∧ names.filter (fun d => d.text?.isNone) = [] := by
    intro k hk
    obtain ⟨f, names, hf, hvisited, hnil, hlisted⟩ := exists_visited hsel hk
    obtain ⟨f', g, hf', hlift, hg⟩ := hmirror k ((mem_selected_iff hsel).2 (.inl hk))
    cases hf.symm.trans hf'
    obtain ⟨-, rfl⟩ := Table.find?_eq_some hg
    exact ⟨f, g, names, hf, hg, (Func.name_of_liftLocals hlift).symm, hvisited,
      hm.visited_mirror hmirror (Table.find?_eq_some hf).1 hlift hg hvisited hlisted, hnil⟩
  have hreach : ∀ k ∈ m.asked functions, (do s.reachable (← s.getFunction k)) =
      (do m.reachable (← m.getFunction k)) := by
    intro k hk
    obtain ⟨f, g, names, hf, hg, hname, hvisited, hvisited', -⟩ := hvisit k hk
    simp only [getFunction, hf, hg, reachable]
    show (do return (g.name :: Datum.texts (← s.visited g)).eraseDups) =
      (do return (f.name :: Datum.texts (← m.visited f)).eraseDups)
    rw [hvisited, hvisited', hname]
  obtain ⟨selected', hsel'⟩ : ∃ selected', s.selected functions = .ok selected' := by
    refine exists_selected fun k hk => ?_
    obtain ⟨f, g, names, -, hg, -, -, hvisited', hnil⟩ := hvisit k (hasked.1 hk)
    exact ⟨g, names, hg, hvisited', hnil⟩
  refine ⟨selected', hsel',
    (perm_ext_iff_of_nodup (nodup_selected hsel') (nodup_selected hsel)).2 fun n => ?_⟩
  rw [mem_selected_iff hsel', mem_selected_iff hsel, hasked]
  refine or_congr_right ⟨?_, ?_⟩
  · rintro ⟨k, hk, set, hset, hn⟩
    exact ⟨k, hasked.1 hk, set, hreach k (hasked.1 hk) ▸ hset, hn⟩
  · rintro ⟨k, hk, set, hset, hn⟩
    exact ⟨k, hasked.2 hk, set, (hreach k hk).trans hset, hn⟩

/-- Different functions of a scoped module declare a variable in the same way. -/
theorem Settled.globals_scopeIn (hm : m.Settled) (hapart : m.Apart selected) :
    ∀ g ∈ s.functions, ∀ g' ∈ s.functions, ∀ v ∈ g.globals, ∀ w ∈ g'.globals,
      Named.name v = Named.name w → g = g' ∨ v = w := by
  intro g hg g' hg' v hv w hw hname
  have hfrom : ∀ g ∈ s.functions, ∃ f ∈ m.functions, f.name ∈ selected ∧ f.liftLocals = .ok g := by
    intro g hg
    obtain ⟨hmem, -, f, hf, hlift⟩ := exists_unlifted_scopeIn hsel hperm hscope hg
    exact ⟨f, (Table.find?_eq_some hf).1, Func.name_of_liftLocals hlift ▸ hmem, hlift⟩
  obtain ⟨f, hmem, hsel, hlift⟩ := hfrom g hg
  obtain ⟨f', hmem', hsel', hlift'⟩ := hfrom g' hg'
  rw [Func.globals_of_liftLocals hlift, mem_append] at hv
  rw [Func.globals_of_liftLocals hlift', mem_append] at hw
  have hwf := (hm.wellFormed.functions f hmem).2
  have hwf' := (hm.wellFormed.functions f' hmem').2
  rcases hv with hv | hv
  · rcases hw with hw | hw
    · have hfind := hwf'.globals w hw
      rw [← (show v.name = w.name from hname), hwf.globals v hv] at hfind
      exact .inr (Option.some.inj hfind)
    · obtain ⟨y, hy, rfl⟩ := mem_map.1 hw
      have hvar : Named.name v ∈ Table.names m.vars :=
        hwf.names_globals_subset (mem_map_of_mem hv)
      rw [hname] at hvar
      exact absurd hvar (hapart.vars f' hmem' hsel' y.name (mem_map_of_mem hy))
  · obtain ⟨x, hx, rfl⟩ := mem_map.1 hv
    rcases hw with hw | hw
    · have hvar : Named.name w ∈ Table.names m.vars :=
        hwf'.names_globals_subset (mem_map_of_mem hw)
      rw [← hname] at hvar
      exact absurd hvar (hapart.vars f hmem hsel x.name (mem_map_of_mem hx))
    · obtain ⟨y, hy, rfl⟩ := mem_map.1 hw
      have hsame := (hapart.distinct f hmem hsel x.name (mem_map_of_mem hx)
        f' hmem' hsel' y.name (mem_map_of_mem hy) hname).1
      obtain rfl := hm.eq_of_name_eq hmem' hmem hsame
      exact .inl (Except.ok.inj (hlift.symm.trans hlift'))

end Scoped

theorem eq_of_mem_classesOf {vs ws : List Var} {c d : Class} (hc : c ∈ m.classesOf vs)
    (hd : d ∈ m.classesOf ws) (hname : Named.name c = Named.name d) : c = d := by
  obtain ⟨v, -, hv⟩ := mem_filterMap.1 hc
  obtain ⟨w, -, hw⟩ := mem_filterMap.1 hd
  have htype : v.type = w.type :=
    (Table.find?_eq_some hv).2.symm.trans (hname.trans (Table.find?_eq_some hw).2)
  rw [htype, hw] at hv
  exact (Option.some.inj hv).symm

/-- The classes of the variables of some functions are found in the module of these functions. -/
theorem classesOf_ofLifted {gs : List Func} (hg : g ∈ gs) :
    (m.ofLifted gs).classesOf g.globals = m.classesOf g.globals := by
  refine filterMap_congr fun v hv => ?_
  cases hfind : Table.find? m.classes v.type with
  | some c =>
    obtain ⟨-, hname⟩ := Table.find?_eq_some hfind
    have hmem : c ∈ gs.flatMap fun f => m.classesOf f.globals :=
      mem_flatMap_classesOf.2 ⟨g, hg, v, hv, hfind⟩
    rw [← hname]
    refine Table.find?_ofList hmem fun d hd hdname => ?_
    obtain ⟨_, -, hd⟩ := mem_flatMap.1 hd
    obtain ⟨_, -, hc⟩ := mem_flatMap.1 hmem
    exact eq_of_mem_classesOf hd hc hdname
  | none =>
    cases hfind' : Table.find? (m.ofLifted gs).classes v.type with
    | none => rfl
    | some c =>
      obtain ⟨hmem, hname⟩ := Table.find?_eq_some hfind'
      obtain ⟨_, -, w, -, hw⟩ := mem_flatMap_classesOf.1 (Table.mem_of_mem_ofList hmem)
      rw [← (Table.find?_eq_some hw).2, hname, hfind] at hw
      exact nomatch hw

/-- Functions that stay as they are are gone through in any order. -/
theorem exists_scopeIn (hlasting : ∀ g ∈ s.functions, g.liftLocals = .ok g)
    (hnodup : (Table.names s.functions).Nodup) (hperm : names.Perm (Table.names s.functions)) :
    ∃ s', s.scopeIn names = .ok s' ∧ s'.functions.Perm s.functions ∧
      s' = s.ofLifted s'.functions := by
  have hall : ∀ n ∈ names, ∃ g, (do (← s.getFunction n).liftLocals) = .ok g := by
    intro n hn
    obtain ⟨g, hg, rfl⟩ := mem_map.1 (hperm.mem_iff.1 hn)
    refine ⟨g, bind_eq_ok_iff.2 ⟨g, ?_, hlasting g hg⟩⟩
    rw [getFunction, Table.find?_of_mem hnodup hg]
  obtain ⟨gs, hgs⟩ := exists_mapM_eq_ok hall
  have hscope : s.scopeIn names = .ok (s.ofLifted gs) := bind_eq_ok_iff.2 ⟨gs, hgs, rfl⟩
  have hnodup' := hperm.nodup_iff.2 hnodup
  obtain ⟨hlifted, hnames, hs⟩ := scopeIn_eq_ok hnodup' hscope
  refine ⟨_, hscope, ?_, hs⟩
  have hsub : (s.ofLifted gs).functions ⊆ s.functions := by
    intro g hg
    obtain ⟨n, -, f, hf, hlift⟩ := exists_mem_of_forall₂ hlifted.flip hg
    have hmem := (Table.find?_eq_some hf).1
    cases (hlasting f hmem).symm.trans hlift
    exact hmem
  have hlen : s.functions.length ≤ (s.ofLifted gs).functions.length := by
    have hlen := hperm.length_eq
    rw [← hnames, Table.names, Table.names, length_map, length_map] at hlen
    exact Nat.le_of_eq hlen.symm
  have hnodupFunctions : (s.ofLifted gs).functions.Nodup := (hnames ▸ hnodup').of_map
  exact (hnodupFunctions.subperm hsub).perm_of_length_le hlen

/-- A module that has been cut down to some functions and all that they reach is cut down to itself.
Whatever orders the functions are gone through in, cutting it down again for the same functions
gives a module with the same declarations, if the names that locals get differ from each other and
from the variables of the module. -/
theorem scope_idempotent (hset : m.Settled)
    (hsel : m.selected functions = .ok selected) (hapart : m.Apart selected)
    (hperm : names.Perm selected) (hscope : m.scopeIn names = .ok s) :
    (∃ s', s.scope functions = .ok s' ∧ s'.Alike s) ∧
    ∃ selected', s.selected functions = .ok selected' ∧
      ∀ names', names'.Perm selected' → ∃ s', s.scopeIn names' = .ok s' ∧ s'.Alike s := by
  have hnodup := hperm.nodup_iff.2 (nodup_selected hsel)
  obtain ⟨-, hnames, hs⟩ := scopeIn_eq_ok hnodup hscope
  obtain ⟨selected', hsel', hperm'⟩ := hset.selected_scopeIn hsel hperm hscope
  have hlasting : ∀ g ∈ s.functions, g.liftLocals = .ok g := by
    intro g hg
    obtain ⟨-, -, f, hf, hlift⟩ := exists_unlifted_scopeIn hsel hperm hscope hg
    have hwf := (hset.wellFormed.functions f (Table.find?_eq_some hf).1).2
    exact (hwf.hasStatements.lasting hlift).1
  have hagain : ∀ names', names'.Perm selected' → ∃ s', s.scopeIn names' = .ok s' ∧ s'.Alike s := by
    intro names' hnames'
    have horder : names'.Perm (Table.names s.functions) :=
      hnames ▸ (hnames'.trans hperm').trans hperm.symm
    obtain ⟨s', hscope', hfunctions, hs'⟩ := exists_scopeIn hlasting (hnames ▸ hnodup) horder
    refine ⟨s', hscope', ?_, ?_, hfunctions⟩
    · rw [congrArg Module.vars hs', congrArg Module.vars hs]
      exact Table.perm_ofList_flatMap hfunctions
        (hset.globals_scopeIn hsel hperm hscope hapart)
    · have hclasses : s'.functions.flatMap (fun g => s.classesOf g.globals) =
          s'.functions.flatMap fun g => m.classesOf g.globals := by
        refine flatMap_congr fun g hg => ?_
        rw [hs]
        exact classesOf_ofLifted (hfunctions.mem_iff.1 hg)
      rw [congrArg Module.classes hs', congrArg Module.classes hs]
      show (Table.ofList (s'.functions.flatMap fun g => s.classesOf g.globals)).Perm _
      rw [hclasses]
      exact Table.perm_ofList_flatMap hfunctions fun g _ g' _ c hc d hd hname =>
        .inr (eq_of_mem_classesOf hc hd hname)
  obtain ⟨s', hscope', halike⟩ := hagain selected' (.refl _)
  exact ⟨⟨s', bind_eq_ok_iff.2 ⟨selected', hsel', hscope'⟩, halike⟩, selected', hsel', hagain⟩

/-- Two functions with a local of one name stay as they have become. -/
theorem scope_idempotent_shared : ∃ m s selected, Module.ofText sharedText = .ok m ∧ m.Settled ∧
    m.selected [] = .ok selected ∧ m.Apart selected ∧ m.scopeIn selected = .ok s ∧
    Table.names s.functions = ["f", "g"] ∧ Table.names s.vars = ["c", "f_t", "g_t"] ∧
    ∃ s', s.scope [] = .ok s' ∧ s'.Alike s := by
  obtain ⟨m, s, hm, -, hs, hview⟩ := exists_of_scopedText fresh_sharedText
  simp only [Prod.mk.injEq, decide_eq_true_eq] at hview
  obtain ⟨hfresh, hfunctions, hvars⟩ := hview
  obtain ⟨selected, hsel, hscope⟩ := bind_eq_ok_iff.1 hs
  obtain ⟨-, hnames, -⟩ := scopeIn_eq_ok (nodup_selected hsel) hscope
  have hapart : m.Apart selected := hnames ▸ hfresh.apart
  have hset := settled_ofText hm
  exact ⟨m, s, selected, hm, hset, hsel, hapart, hscope, hfunctions, hvars,
    (scope_idempotent hset hsel hapart (.refl _) hscope).1⟩

end Module

end DataDiagram
