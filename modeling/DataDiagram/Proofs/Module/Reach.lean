import DataDiagram.Proofs.Module.Follow
import DataDiagram.Proofs.Reading.WellFormed
/-!
# Functions that are reached

The functions that are reached from some functions are closed under calls, as far as following calls
looks: it does not look into the arguments of a call, and an object that is taken for a function has
its name added without the calls of the function of that name.
-/

namespace DataDiagram

open Code List

theorem forall₂_of_mapM_eq_ok {ε α β : Type} {f : α → Except ε β} {as : List α} {bs : List β}
    (h : as.mapM f = .ok bs) : List.Forall₂ (fun a b => f a = .ok b) as bs := by
  induction as generalizing bs with
  | nil =>
    cases h
    exact .nil
  | cons a as ih =>
    simp only [mapM_cons, bind_eq_ok_iff] at h
    obtain ⟨b, hb, more, hmore, hpure⟩ := h
    cases hpure
    exact .cons hb (ih hmore)

/-! ## Closed sets of functions -/

/-- The names among what has been reached. -/
def Among (names : List Datum) (n : String) : Prop := .str n ∈ names

/-- The calls of a list are of functions whose names satisfy `N`. -/
def Within (N : String → Prop) (ps : List (Code × Code)) : Prop :=
  ∀ p ∈ ps, ∃ f, N f ∧ p.1 = text f

variable {ps : List (Code × Code)} {v : Var} {N N' : String → Prop}

theorem Within.mono (h : Within N ps) (hsub : ∀ n, N n → N' n) : Within N' ps := by
  intro p hp
  obtain ⟨f, hf, hpf⟩ := h p hp
  exact ⟨f, hsub f hf, hpf⟩

theorem Within.append {qs : List (Code × Code)} (hp : Within N ps) (hq : Within N qs) :
    Within N (ps ++ qs) :=
  forall_mem_append.2 ⟨hp, hq⟩

namespace Module

variable {m : Module} {names names' : List Datum}

/-- Names of functions, with those of all functions that are called in their bodies. -/
def Closed (m : Module) (N : String → Prop) : Prop :=
  ∀ n, N n → ∃ g, Table.find? m.functions n = some g ∧ Within N g.body.calls

theorem Closed.or (h : m.Closed N) (h' : m.Closed N') : m.Closed fun n => N n ∨ N' n := by
  rintro n (hn | hn)
  · obtain ⟨g, hg, hcalls⟩ := h n hn
    exact ⟨g, hg, hcalls.mono fun _ => .inl⟩
  · obtain ⟨g, hg, hcalls⟩ := h' n hn
    exact ⟨g, hg, hcalls.mono fun _ => .inr⟩

theorem Closed.congr (h : m.Closed N) (hiff : ∀ n, N' n ↔ N n) : m.Closed N' := by
  intro n hn
  obtain ⟨g, hg, hcalls⟩ := h n ((hiff n).1 hn)
  exact ⟨g, hg, hcalls.mono fun k hk => (hiff k).2 hk⟩

theorem Closed.append (h : m.Closed (Among names)) (h' : m.Closed (Among names')) :
    m.Closed (Among (names ++ names')) :=
  (h.or h').congr fun _ => mem_append

theorem closed_nil : m.Closed (Among []) := fun _ h => absurd h not_mem_nil

/-- Names that are closed under calls and hold the functions of all calls of a list. -/
structure Covers (m : Module) (names : List Datum) (ps : List (Code × Code)) : Prop where
  closed : m.Closed (Among names)
  calls : Within (Among names) ps

theorem covers_nil : m.Covers [] [] := ⟨closed_nil, forall_mem_nil _⟩

theorem Covers.append {ps qs : List (Code × Code)} (hp : m.Covers names ps)
    (hq : m.Covers names' qs) : m.Covers (names ++ names') (ps ++ qs) := by
  refine ⟨hp.closed.append hq.closed, .append ?_ ?_⟩
  · exact hp.calls.mono fun _ => mem_append_left names'
  · exact hq.calls.mono fun _ => mem_append_right names

/-- Functions are followed to names that are closed under calls. -/
def Sound (m : Module) (follow : Follow) : Prop :=
  ∀ stack c callee names, follow stack c callee = .ok names →
    m.Closed (Among names) ∧ ∃ f, Among names f ∧ callee = Code.text f

theorem sound_refuseCall : m.Sound refuseCall := fun _ _ _ _ h => nomatch h

section Reached

variable {follow : Follow} {stack : List String} {c : Code} {cs : List Code}

theorem covers_callsAll (h : ∀ c ∈ cs, ∀ own, reached follow stack c = .ok own →
      m.Covers own c.calls)
    (hr : reachedAll follow stack cs = .ok names) : m.Covers names (callsAll cs) := by
  induction cs generalizing names with
  | nil =>
    cases hr
    exact covers_nil
  | cons c cs ih =>
    simp only [reachedAll, bind_eq_ok_iff] at hr
    obtain ⟨first, hfirst, more, hmore, hpure⟩ := hr
    cases hpure
    rw [forall_mem_cons] at h
    exact (h.1 first hfirst).append (ih h.2 hmore)

theorem covers_expression {calls : Bool} (h : Expression calls c) (hfollow : m.Sound follow)
    (hr : reached follow stack c = .ok names) : m.Covers names c.calls := by
  induction h generalizing follow names with
  | const | name =>
    cases hr
    exact covers_nil
  | op _ ih =>
    simp only [reached, bind_eq_ok_iff] at hr
    obtain ⟨_, hsymbol, more, hmore, hpure⟩ := hr
    cases hsymbol
    cases hpure
    exact covers_callsAll (fun c hc own hown => ih c hc sound_refuseCall hown) hmore
  | attr _ ih =>
    simp only [reached, bind_eq_ok_iff] at hr
    obtain ⟨first, hfirst, _, hfield, hpure⟩ := hr
    cases hfield
    cases hpure
    exact (ih hfollow hfirst).append covers_nil
  | item _ _ ihv ihi =>
    simp only [reached, bind_eq_ok_iff] at hr
    obtain ⟨first, hfirst, more, hmore, hpure⟩ := hr
    cases hpure
    exact (ihv hfollow hfirst).append (ihi hfollow hmore)
  | call =>
    rw [reached] at hr
    obtain ⟨hclosed, f, hf, hcallee⟩ := hfollow _ _ _ _ hr
    exact ⟨hclosed, forall_mem_singleton.2 ⟨f, hf, hcallee⟩⟩

theorem covers_assign {r : Option Origin} {t v : Code} {aug : Option String}
    (ht : Expression true t) (hv : Expression true v) (hfollow : m.Sound follow)
    (hr : reached follow stack (.assign r t v (ofText? aug)) = .ok names) :
    m.Covers names (Code.assign r t v (ofText? aug)).calls := by
  have haug : reached follow stack (ofText? aug) = .ok [] := by cases aug <;> rfl
  have hcalls : (ofText? aug).calls = [] := by cases aug <;> rfl
  simp only [reached, haug, bind_eq_ok_iff] at hr
  obtain ⟨first, hfirst, more, hmore, _, hnone, hpure⟩ := hr
  cases hnone
  cases hpure
  rw [Code.calls, hcalls, append_nil, append_nil]
  exact (covers_expression ht hfollow hfirst).append (covers_expression hv hfollow hmore)

/-- The functions that are reached from a statement are closed under calls, with those it calls. -/
theorem covers_statement (h : IsStatement c) (hfollow : m.Sound follow)
    (hr : reached follow stack c = .ok names) : m.Covers names c.calls := by
  induction h generalizing names with
  | pass | bareRet =>
    cases hr
    exact covers_nil
  | assign ht hv => exact covers_assign ht.2 hv hfollow hr
  | assignCall ht hc => exact covers_assign ht.2 (CallOf.expression hc) hfollow hr
  | cond ht _ _ iha ihb =>
    simp only [reached, bind_eq_ok_iff] at hr
    obtain ⟨first, hfirst, second, hsecond, third, hthird, hpure⟩ := hr
    cases hpure
    have htest := covers_expression ht hfollow hfirst
    have hthen := covers_callsAll (fun c hc own hown => iha c hc hown) hsecond
    have helse := covers_callsAll (fun c hc own hown => ihb c hc hown) hthird
    exact (htest.append hthen).append helse
  | ret hv =>
    rw [reached] at hr
    rw [Code.calls]
    exact covers_expression hv hfollow hr
  | bareCall hc =>
    rw [reached] at hr
    rw [Code.calls]
    exact covers_expression (CallOf.expression hc) hfollow hr

end Reached

end Module

/-! ## Initial values -/

namespace Code

variable {follow : Follow} {stack : List String}

mutual

theorem reached_ofDatum : ∀ d : Datum, reached follow stack (ofDatum d) = .ok []
  | .tuple items => by
    rw [ofDatum, reached]
    exact reachedAll_ofData items
  | .none | .ellipsis | .bool _ | .int _ | .float _ | .complex _ | .str _ | .bytes _ | .list _
  | .set _ | .dict _ | .range .. | .record .. | .named .. => rfl

theorem reachedAll_ofData : ∀ ds : List Datum, reachedAll follow stack (ofData ds) = .ok []
  | [] => rfl
  | d :: rest => by
    rw [ofData, reachedAll, reached_ofDatum d, reachedAll_ofData rest]
    rfl

end

end Code

/-- A variable that starts with a plain value. -/
def Var.Plain (v : Var) : Prop := (∃ d, v.size = .datum d) ∧ ∃ d, v.init = .ofDatum d

theorem Var.Plain.reached_code (h : v.Plain) (follow : Follow) (stack : List String) :
    reached follow stack v.code = reachedObjects follow stack v.init := by
  obtain ⟨⟨_, hsize⟩, d, hinit⟩ := h
  rw [Var.code, reached, hsize, hinit, reached_ofDatum]
  simp only [reached]
  cases reachedObjects follow stack (ofDatum d) with
  | error e => rfl
  | ok names => rfl

theorem reachedAll_codes {vs : List Var} (h : ∀ v ∈ vs, v.Plain) (follow : Follow)
    (stack : List String) : reachedAll follow stack (vs.map Var.code) =
      reachedObjectsAll follow stack (vs.map Var.init) := by
  induction vs with
  | nil => rfl
  | cons v vs ih =>
    rw [forall_mem_cons] at h
    rw [map_cons, map_cons, reachedAll, reachedObjectsAll, h.1.reached_code, ih h.2]

/-! ## Objects that are taken for functions -/

mutual

/-- Whether no object in an initial value is of a class with the name of functions. -/
def Code.nameless : Code → Bool
  | .datum (.record kind _) => kind != "Func"
  | .tuple items => Code.allNameless items
  | _ => true

def Code.allNameless : List Code → Bool
  | [] => true
  | c :: rest => c.nameless && Code.allNameless rest

end

namespace Module

variable {m : Module} {names : List Datum} {follow : Follow} {stack : List String}

theorem closed_reachedRecord (hfollow : m.Sound follow) {kind : String}
    {fields : List (String × Datum)} (hkind : kind ≠ "Func")
    (h : (Datum.record kind fields).reached follow false stack = .ok names) :
    m.Closed (Among names) := by
  rw [Datum.reached] at h
  split at h
  · rw [if_neg Bool.false_ne_true, Datum.reachedCall] at h
    split at h
    · exact nomatch h
    · split at h
      · exact nomatch h
      · exact (hfollow _ _ _ _ h).1
  · split at h
    · exact nomatch h
    · cases h
      exact closed_nil

mutual

/-- Objects that are taken for calls are followed to closed sets of functions. -/
theorem closed_reachedObjects (hfollow : m.Sound follow) :
    ∀ (c : Code) {names : List Datum}, c.nameless = true →
      reachedObjects follow stack c = .ok names → m.Closed (Among names)
  | .datum d, names, hc, h => by
    cases d with
    | record kind fields => exact closed_reachedRecord hfollow (bne_iff_ne.1 hc) h
    | _ =>
      cases h
      exact closed_nil
  | .tuple items, names, hc, h => closed_reachedObjectsAll hfollow items hc h
  | .const .., _, _, h | .op .., _, _, h | .name .., _, _, h | .attr .., _, _, h
  | .item .., _, _, h | .call .., _, _, h | .block .., _, _, h | .pass _, _, _, h
  | .assign .., _, _, h | .cond .., _, _, h | .ret .., _, _, h | .bareCall .., _, _, h
  | .var .., _, _, h | .cls .., _, _, h | .func .., _, _, h | .bare .., _, _, h => by
    cases h
    exact closed_nil

theorem closed_reachedObjectsAll (hfollow : m.Sound follow) :
    ∀ (cs : List Code) {names : List Datum}, allNameless cs = true →
      reachedObjectsAll follow stack cs = .ok names → m.Closed (Among names)
  | [], names, _, h => by
    cases h
    exact closed_nil
  | c :: rest, names, hcs, h => by
    rw [allNameless, Bool.and_eq_true] at hcs
    simp only [reachedObjectsAll, bind_eq_ok_iff] at h
    obtain ⟨first, hfirst, more, hmore, hpure⟩ := h
    cases hpure
    exact (closed_reachedObjects hfollow c hcs.1 hfirst).append
      (closed_reachedObjectsAll hfollow rest hcs.2 hmore)

end

end Module

/-- A well-formed module whose variables start with plain values. -/
structure Module.Settled (m : Module) : Prop where
  wellFormed : m.WellFormed
  plain : ∀ f ∈ m.functions, ∀ v ∈ f.globals ++ f.locals, v.Plain

theorem Var.WellFormed.exists_size {classes : List Class} (h : v.WellFormed classes) :
    ∃ d, v.size = .datum d := by
  rcases h.size with hsize | ⟨items, -, hsize⟩
  · exact ⟨_, hsize⟩
  · exact ⟨_, hsize⟩

/-- However parts of it are evaluated, a module that is read from statements is settled. -/
theorem Reading.settled_readModule {σ V : Type} {I : Evaluator σ V} {lines : List String}
    {body : List Source.Stmt} {m : Module} (h : readModule I lines body = .ok m) : m.Settled := by
  obtain ⟨st, s, hrun, rfl⟩ := readModule_eq_ok h
  have hwell := (complete_readAll hrun).wellFormed (s := s)
  refine ⟨hwell, fun f hf v hv => ⟨?_, ?_⟩⟩
  · have hfunc := (hwell.functions f hf).2
    rcases mem_append.1 hv with hv | hv
    · have hmem := (Table.find?_eq_some (hfunc.globals v hv)).1
      exact (hwell.vars v hmem).2.1.exists_size
    · exact (hfunc.locals v hv).1.exists_size
  · obtain ⟨d, -, rfl⟩ := mem_map.1 hf
    rw [FuncDraft.finish, ← map_append] at hv
    obtain ⟨draft, -, rfl⟩ := mem_map.1 hv
    exact ⟨_, rfl⟩

theorem Module.settled_ofText {text : String} {m : Module} (h : Module.ofText text = .ok m) :
    m.Settled := by
  obtain ⟨stmts, -, hread⟩ := Module.read_eq_ok h
  exact Reading.settled_readModule hread

namespace Module

variable {m : Module} {names : List Datum} {f : Func}

theorem Settled.covers_body (hm : m.Settled) {follow : Follow} (hfollow : m.Sound follow)
    (hf : f ∈ m.functions) {stack : List String}
    (hr : f.body.reached follow stack = .ok names) : m.Covers names f.body.calls := by
  obtain ⟨r, body, hbody, hstmts⟩ := (hm.wellFormed.functions f hf).2.body
  rw [hbody, reached] at hr
  rw [hbody, Code.calls]
  exact covers_callsAll (fun c hc own hown => covers_statement (hstmts c hc) hfollow hown) hr

theorem Covers.closed_cons {g : Func} {n : String} (h : m.Covers names g.body.calls)
    (hg : Table.find? m.functions n = some g) : m.Closed (Among (.str n :: names)) := by
  have hsub : ∀ k, Among names k → Among (.str n :: names) k := fun _ => mem_cons_of_mem _
  intro k hk
  rcases mem_cons.1 hk with hk | hk
  · cases hk
    exact ⟨g, hg, h.calls.mono hsub⟩
  · obtain ⟨g', hg', hcalls⟩ := h.closed k hk
    exact ⟨g', hg', hcalls.mono hsub⟩

/-- No variable of a function starts with an object of a class with the name of functions. -/
def Nameless (m : Module) : Prop :=
  ∀ f ∈ m.functions, ∀ v ∈ f.globals ++ f.locals, v.init.nameless = true

instance (m : Module) : Decidable m.Nameless :=
  inferInstanceAs
    (Decidable (∀ f ∈ m.functions, ∀ v ∈ f.globals ++ f.locals, v.init.nameless = true))

theorem Nameless.allNameless (h : m.Nameless) (hf : f ∈ m.functions) :
    allNameless ((f.globals ++ f.locals).map Var.init) = true := by
  have hall := h f hf
  generalize f.globals ++ f.locals = vs at hall
  induction vs with
  | nil => rfl
  | cons v vs ih =>
    rw [forall_mem_cons] at hall
    rw [map_cons, Code.allNameless, hall.1, ih hall.2]
    rfl

/-- A call is followed to a closed set of functions. -/
theorem Settled.sound_followAt (hm : m.Settled) (hnameless : m.Nameless) (depth : Nat) :
    m.Sound (m.followAt depth) := by
  induction depth with
  | zero =>
    intro stack c callee names h
    obtain ⟨_, _, _, _, _, hdepth, -⟩ := followAt_eq_ok h
    exact nomatch hdepth
  | succ depth ih =>
    intro stack c callee names h
    obtain ⟨_, n, g, own, rest, hdepth, hcallee, -, hg, hown, hrest, rfl⟩ := followAt_eq_ok h
    cases hdepth
    have hmem := (Table.find?_eq_some hg).1
    rw [reachedAll_codes (hm.plain g hmem)] at hrest
    have hbody := (hm.covers_body ih hmem hown).closed_cons hg
    have hvars := closed_reachedObjectsAll ih _ (hnameless.allNameless hmem) hrest
    exact ⟨hbody.append hvars, n, mem_cons_self, hcallee⟩

/-- The functions that are reached from a function, itself included, are closed under calls. -/
theorem Settled.closed_reachable (hm : m.Settled) (hnameless : m.Nameless) (hf : f ∈ m.functions)
    {names : List String} (h : m.reachable f = .ok names) : m.Closed (· ∈ names) := by
  obtain ⟨calls, hcalls, hpure⟩ := bind_eq_ok_iff.1 h
  cases hpure
  obtain ⟨hfind, hfunc⟩ := hm.wellFormed.functions f hf
  have hreached : f.body.reached (m.followAt (m.functions.length + 2)) [f.name] = .ok calls := by
    obtain ⟨r, body, hbody, -⟩ := hfunc.body
    rw [visited, hbody] at hcalls
    rw [hbody]
    exact hcalls
  have hcovers := hm.covers_body (hm.sound_followAt hnameless _) hf hreached
  refine (hcovers.closed_cons hfind).congr fun n => ?_
  rw [mem_eraseDups, mem_cons, Datum.mem_texts, Among, mem_cons, Datum.str.injEq]

theorem mem_reachable {names : List String} (h : m.reachable f = .ok names) : f.name ∈ names := by
  obtain ⟨_, -, hpure⟩ := bind_eq_ok_iff.1 h
  cases hpure
  exact mem_eraseDups.2 mem_cons_self

end Module

end DataDiagram
