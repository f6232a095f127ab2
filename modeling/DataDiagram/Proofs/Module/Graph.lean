import DataDiagram.Proofs.Code.Sites
import DataDiagram.Proofs.Module.Visible
import Mathlib.Logic.Relation
/-!
# The graph of calls

The functions of a module and the calls in their bodies make up a graph.  Calls can be followed from
a function if every function that they lead to is declared, has no call under an operator and is not
led back to; then the functions that are reached are the ones that calls lead to.  The calls that
are being followed are of different functions, so that following them comes to an end.
-/

namespace DataDiagram

open Code CallSite Relation List

/-- A piece of code with a place in a source. -/
def Code.Placed (c : Code) : Prop :=
  ∃ o p line, c.ref = some o ∧ o.position = some p ∧ Origin.lineAt? o.lines p.line = some line

theorem Code.Placed.error {c : Code} (h : c.Placed) (message : String) :
    ∃ l, c.error message = .located l := by
  obtain ⟨o, p, line, hr, hp, hline⟩ := h
  refine ⟨⟨message, o.file, p.line, p.column, some line⟩, ?_⟩
  rw [Code.error, hr]
  simp only [Origin.error, hp, hline]

namespace Code

mutual

/-- No object in an initial value is of a class with the name of calls, functions or sequences. -/
def inert : Code → Bool
  | datum (.record kind _) => !(List.contains ["Call", "Func", "tuple"] kind)
  | tuple items => allInert items
  | _ => true

/-- Some initial values hold no such object. -/
def allInert : List Code → Bool
  | [] => true
  | c :: rest => c.inert && allInert rest

end

variable {follow : Follow} {stack : List String}

theorem reached_record_of_inert {kind : String} (fields : List (String × Datum))
    (h : (datum (.record kind fields)).inert = true) :
    (Datum.record kind fields).reached follow false stack = .ok [] := by
  simp only [inert, contains_cons, Bool.not_eq_true', Bool.or_eq_false_iff,
    beq_eq_false_iff_ne] at h
  rw [Datum.reached, if_neg h.1, if_neg h.2.1, if_neg h.2.2.1]

mutual

/-- Inert values lead nowhere. -/
theorem reachedObjects_of_inert : ∀ c :
    Code, c.inert = true → reachedObjects follow stack c = .ok []
  | .datum d, h => by
    cases d with
    | record kind fields => exact reached_record_of_inert fields h
    | _ => rfl
  | .tuple items, h => reachedObjectsAll_of_inert items h
  | .const .., _ | .op .., _ | .name .., _ | .attr .., _ | .item .., _ | .call .., _ | .block .., _
  | .pass _, _ | .assign .., _ | .cond .., _ | .ret .., _ | .bareCall .., _ | .var .., _
  | .cls .., _
  | .func .., _ | .bare .., _ => rfl

theorem reachedObjectsAll_of_inert :
    ∀ cs : List Code, allInert cs = true → reachedObjectsAll follow stack cs = .ok []
  | [], _ => rfl
  | c :: rest, h => by
    rw [allInert, Bool.and_eq_true] at h
    rw [reachedObjectsAll, reachedObjects_of_inert c h.1, reachedObjectsAll_of_inert rest h.2]
    rfl

end

end Code

variable {f : Func}

theorem Func.HasStatements.reached_eq (h : f.HasStatements) (follow : Follow)
    (stack : List String) :
    f.body.reached follow stack = visitAll follow stack (f.body.sites false) ∧
      f.body.reachedBody follow stack = visitAll follow stack (f.body.sites false) := by
  obtain ⟨body, hbody | ⟨r, hbody⟩, hstmts⟩ := h
  all_goals
    have hall : reachedAll follow stack body = visitAll follow stack (sitesAll false body) :=
      reachedAll_eq_visitAll fun c hc => (hstmts c hc).reached_eq
    rw [hbody, reached, reachedBody, sites]
    exact ⟨hall, hall⟩

theorem Func.HasStatements.callee_of_mem (h : f.HasStatements) {s : CallSite}
    (hs : s ∈ f.body.sites false) : ∃ n, s.callee = Code.text n := by
  obtain ⟨body, hbody | ⟨r, hbody⟩, hstmts⟩ := h
  all_goals
    rw [hbody, sites, sitesAll_eq_flatMap] at hs
    obtain ⟨c, hc, hs⟩ := mem_flatMap.1 hs
    exact (hstmts c hc).callee_of_mem hs

namespace Module

variable {m : Module} {f g : Func} {n k : String} {c : Code} {depth depth' : Nat}
  {stack : List String} {names : List Datum}

/-- A function calls another: the call stands anywhere in its body, but not in the arguments of
another call. -/
def Calls (m : Module) (k n : String) : Prop :=
  ∃ g, Table.find? m.functions k = some g ∧ ∃ s ∈ g.body.sites false, s.callee = Code.text n

/-- The calls that a function leads to are of functions of the module, stand under no operator, and
lead to no function back to itself. -/
structure Admits (m : Module) (n : String) : Prop where
  declared : ∀ k, ReflTransGen m.Calls n k → ∃ g, Table.find? m.functions k = some g
  plain : ∀ k g, ReflTransGen m.Calls n k → Table.find? m.functions k = some g →
    ∀ s ∈ g.body.sites false, s.underOp = false
  acyclic : ∀ k, ReflTransGen m.Calls n k → ¬ TransGen m.Calls k k

theorem Admits.step (h : m.Admits n) (hcall : m.Calls n k) : m.Admits k where
  declared j hj := h.declared j (hj.head hcall)
  plain j g hj := h.plain j g (hj.head hcall)
  acyclic j hj := h.acyclic j (hj.head hcall)

theorem Admits.of_step (hg : Table.find? m.functions n = some g)
    (hplain : ∀ s ∈ g.body.sites false, s.underOp = false)
    (hstep : ∀ j, m.Calls n j → m.Admits j ∧ ¬ ReflTransGen m.Calls j n) : m.Admits n := by
  refine ⟨fun k hk => ?_, fun k g' hk hg' => ?_, fun k hk hcycle => ?_⟩
  · rcases hk.cases_head with rfl | ⟨j, hj, hjk⟩
    · exact ⟨g, hg⟩
    · exact (hstep j hj).1.declared k hjk
  · rcases hk.cases_head with rfl | ⟨j, hj, hjk⟩
    · cases hg.symm.trans hg'
      exact hplain
    · exact (hstep j hj).1.plain k g' hjk hg'
  · rcases hk.cases_head with rfl | ⟨j, hj, hjk⟩
    · obtain ⟨j, hj, hjn⟩ := TransGen.head'_iff.1 hcycle
      exact (hstep j hj).2 hjn
    · exact (hstep j hj).1.acyclic k hjk hcycle

/-- Functions of statements whose calls have a place in a source, and whose variables start with
inert values. -/
structure Traceable (m : Module) : Prop where
  statements : ∀ g ∈ m.functions, g.HasStatements
  placed : ∀ g ∈ m.functions, ∀ s ∈ g.body.sites false, s.node.Placed
  plain : ∀ g ∈ m.functions, ∀ v ∈ g.globals ++ g.locals, v.Plain ∧ v.init.inert = true

theorem Traceable.reachedFrom_eq (hm : m.Traceable) (hg : g ∈ m.functions) (follow : Follow)
    (stack : List String) :
    reachedFrom follow stack g = visitAll follow stack (g.body.sites false) := by
  have hinert : allInert ((g.globals ++ g.locals).map Var.init) = true := by
    have hall := fun v hv => (hm.plain g hg v hv).2
    generalize g.globals ++ g.locals = vs at hall
    induction vs with
    | nil => rfl
    | cons v vs ih =>
      rw [forall_mem_cons] at hall
      rw [map_cons, allInert, hall.1, ih hall.2]
      rfl
  rw [reachedFrom, ((hm.statements g hg).reached_eq follow stack).1,
    reachedAll_codes fun v hv => (hm.plain g hg v hv).1, reachedObjectsAll_of_inert _ hinert]
  exact append_ok_nil _

/-- What following a call comes to. -/
theorem followAt_succ (m : Module) (depth : Nat) (stack : List String) (c : Code) (n : String) :
    m.followAt (depth + 1) stack c (Code.text n) =
      if n ∈ stack then .error (recursionError c stack n)
      else match Table.find? m.functions n with
        | none => .error (c.error "function not defined")
        | some g => (.str n :: ·) <$> reachedFrom (m.followAt depth) (stack ++ [n]) g := by
  simp only [followAt, contains_iff_mem]
  split
  · rfl
  · cases Table.find? m.functions n with
    | none => rfl
    | some g => rfl

theorem Traceable.followAt_eq_ok (hm : m.Traceable)
    (h : m.followAt (depth + 1) stack c (Code.text n) = .ok names) :
    ∃ g own, n ∉ stack ∧ Table.find? m.functions n = some g ∧
      visitAll (m.followAt depth) (stack ++ [n]) (g.body.sites false) = .ok own ∧
      names = .str n :: own := by
  rw [followAt_succ] at h
  split at h
  · exact nomatch h
  · next hnew =>
      split at h
      · exact nomatch h
      · next g hg =>
          rw [hm.reachedFrom_eq (Table.find?_eq_some hg).1, map_eq_pure_bind] at h
          obtain ⟨own, hown, hpure⟩ := bind_eq_ok_iff.1 h
          cases hpure
          exact ⟨g, own, hnew, hg, hown, rfl⟩

/-! ## What is reached -/

/-- Where a call is followed, the calls that it leads to are admitted, lead to no function that is
being followed, and reach the functions that they lead to. -/
theorem Traceable.admits_of_followAt (hm : m.Traceable)
    (h : m.followAt depth stack c (Code.text n) = .ok names) :
    m.Admits n ∧ (∀ k, ReflTransGen m.Calls n k → k ∉ stack) ∧
      ∀ k, Among names k ↔ ReflTransGen m.Calls n k := by
  induction depth generalizing stack c n names with
  | zero => exact nomatch h
  | succ depth ih =>
    obtain ⟨g, own, hnew, hg, hown, rfl⟩ := hm.followAt_eq_ok h
    obtain ⟨hsites, hmemOwn⟩ := visitAll_eq_ok hown
    have hstep : ∀ j, m.Calls n j →
        m.Admits j ∧ ∀ k, ReflTransGen m.Calls j k → k ∉ stack ++ [n] := by
      rintro j ⟨g', hg', s, hs, hcallee⟩
      cases hg.symm.trans hg'
      obtain ⟨own', hown'⟩ := (hsites s hs).2
      rw [hcallee] at hown'
      exact ⟨(ih hown').1, (ih hown').2.1⟩
    refine ⟨.of_step hg (fun s hs => (hsites s hs).1) fun j hj => ⟨(hstep j hj).1, fun hjn => ?_⟩,
      fun k hk => ?_, fun k => ?_⟩
    · exact (hstep j hj).2 n hjn (mem_append_right stack mem_cons_self)
    · rcases hk.cases_head with rfl | ⟨j, hj, hjk⟩
      · exact hnew
      · exact fun hmem => (hstep j hj).2 k hjk (mem_append_left [n] hmem)
    · rw [Among, mem_cons, hmemOwn, Datum.str.injEq, ReflTransGen.cases_head_iff, eq_comm]
      refine or_congr_right ⟨?_, ?_⟩
      · rintro ⟨s, hs, own', hown', hk⟩
        obtain ⟨j, hj⟩ := (hm.statements g (Table.find?_eq_some hg).1).callee_of_mem hs
        rw [hj] at hown'
        exact ⟨j, ⟨g, hg, s, hs, hj⟩, ((ih hown').2.2 k).1 hk⟩
      · rintro ⟨j, ⟨g', hg', s, hs, hcallee⟩, hjk⟩
        cases hg.symm.trans hg'
        obtain ⟨own', hown'⟩ := (hsites s hs).2
        refine ⟨s, hs, own', hown', ?_⟩
        rw [hcallee] at hown'
        exact ((ih hown').2.2 k).2 hjk

/-! ## Depths -/

/-- Different functions of the module are being followed, and the depth is enough for the others. -/
def Room (m : Module) (depth : Nat) (stack : List String) : Prop :=
  ∃ way : List String, way.Nodup ∧ way ⊆ Table.names m.functions ∧ way ⊆ stack ∧
    m.functions.length + 1 ≤ depth + way.length

theorem Room.exists_eq_succ (h : m.Room depth stack) : ∃ below, depth = below + 1 := by
  obtain ⟨way, hnodup, hnames, -, hdepth⟩ := h
  have hlen := (hnodup.subperm hnames).length_le
  rw [Table.names, length_map] at hlen
  exact ⟨depth - 1, by omega⟩

theorem Room.push (h : m.Room (depth + 1) stack) (hnew : n ∉ stack)
    (hg : Table.find? m.functions n = some g) : m.Room depth (stack ++ [n]) := by
  obtain ⟨way, hnodup, hnames, hstack, hdepth⟩ := h
  refine ⟨way ++ [n], ?_, ?_, ?_, ?_⟩
  · exact hnodup.append (nodup_singleton n) (disjoint_singleton.2 fun hn => hnew (hstack hn))
  · obtain ⟨hmem, rfl⟩ := Table.find?_eq_some hg
    exact subset_names hmem hnames
  · exact append_subset.2 ⟨List.Subset.trans hstack (subset_append_left stack [n]),
      subset_append_right stack [n]⟩
  · rw [length_append, length_singleton]
    omega

theorem Room.append (h : m.Room depth stack) (more : List String) :
    m.Room depth (stack ++ more) := by
  obtain ⟨way, hnodup, hnames, hstack, hdepth⟩ := h
  exact ⟨way, hnodup, hnames, List.Subset.trans hstack (subset_append_left stack more), hdepth⟩

theorem Traceable.exists_followAt_eq_ok (hm : m.Traceable) (hroom : m.Room depth stack)
    (hadmits : m.Admits n) (hnew : ∀ k, ReflTransGen m.Calls n k → k ∉ stack) (c : Code) :
    ∃ names, m.followAt depth stack c (Code.text n) = .ok names := by
  induction depth generalizing stack c n with
  | zero =>
    obtain ⟨_, hdepth⟩ := hroom.exists_eq_succ
    exact nomatch hdepth
  | succ depth ih =>
    obtain ⟨g, hg⟩ := hadmits.declared n .refl
    have hmem := (Table.find?_eq_some hg).1
    have hself := hnew n .refl
    obtain ⟨own, hown⟩ : ∃ own, visitAll (m.followAt depth) (stack ++ [n]) (g.body.sites false) =
        .ok own := by
      refine exists_visitAll_eq_ok fun s hs => ⟨hadmits.plain n g .refl hg s hs, ?_⟩
      obtain ⟨j, hj⟩ := (hm.statements g hmem).callee_of_mem hs
      have hcall : m.Calls n j := ⟨g, hg, s, hs, hj⟩
      rw [hj]
      refine ih (hroom.push hself hg) (hadmits.step hcall) (fun k hk hstack => ?_) s.node
      rcases mem_append.1 hstack with hstack | hstack
      · exact hnew k (hk.head hcall) hstack
      · -- The call leads back to the function it stands in.
        cases mem_singleton.1 hstack
        exact hadmits.acyclic n .refl (TransGen.head' hcall hk)
    refine ⟨.str n :: own, ?_⟩
    rw [followAt_succ, if_neg hself, hg]
    simp only [hm.reachedFrom_eq hmem, hown]
    rfl

/-- All depths that are enough come to the same. -/
theorem Traceable.followAt_eq (hm : m.Traceable) (hroom : m.Room depth stack)
    (hroom' : m.Room depth' stack) (c : Code) (n : String) :
    m.followAt depth stack c (Code.text n) = m.followAt depth' stack c (Code.text n) := by
  induction depth generalizing depth' stack c n with
  | zero =>
    obtain ⟨_, hdepth⟩ := hroom.exists_eq_succ
    exact nomatch hdepth
  | succ depth ih =>
    obtain ⟨depth', rfl⟩ := hroom'.exists_eq_succ
    rw [followAt_succ, followAt_succ]
    split
    · rfl
    · next hnew =>
        cases hg : Table.find? m.functions n with
        | none => rfl
        | some g =>
          have hmem := (Table.find?_eq_some hg).1
          have hsites : ∀ s ∈ g.body.sites false,
              m.followAt depth (stack ++ [n]) s.node s.callee =
                m.followAt depth' (stack ++ [n]) s.node s.callee := by
            intro s hs
            obtain ⟨j, hj⟩ := (hm.statements g hmem).callee_of_mem hs
            rw [hj]
            exact ih (hroom.push hnew hg) (hroom'.push hnew hg) s.node j
          simp only [hm.reachedFrom_eq hmem, visitAll_congr hsites]

variable {e : CodeError}

theorem Traceable.located_of_visitAll (hm : m.Traceable) (hg : g ∈ m.functions) {follow : Follow}
    (hfollow : ∀ c n e, c.Placed → follow stack c (Code.text n) = .error e → ∃ l, e = .located l)
    (h : visitAll follow stack (g.body.sites false) = .error e) :
    ∃ l, e = .located l := by
  obtain ⟨s, hs, rfl | hcall⟩ := visitAll_eq_error h
  · exact (hm.placed g hg s hs).error _
  · obtain ⟨j, hj⟩ := (hm.statements g hg).callee_of_mem hs
    rw [hj] at hcall
    exact hfollow _ _ e (hm.placed g hg s hs) hcall

/-- What keeps a call from being followed is shown at its place. -/
theorem Traceable.located_of_followAt (hm : m.Traceable) (hc : c.Placed)
    (h : m.followAt depth stack c (Code.text n) = .error e) : ∃ l, e = .located l := by
  induction depth generalizing stack c n e with
  | zero =>
    cases h
    exact hc.error _
  | succ depth ih =>
    rw [followAt_succ] at h
    split at h
    · cases h
      exact hc.error _
    · split at h
      · cases h
        exact hc.error _
      · next g hg =>
          have hmem := (Table.find?_eq_some hg).1
          rw [hm.reachedFrom_eq hmem] at h
          cases hsites : visitAll (m.followAt depth) (stack ++ [n]) (g.body.sites false) with
          | ok own =>
            rw [hsites] at h
            exact nomatch h
          | error e' =>
            rw [hsites] at h
            cases h
            exact hm.located_of_visitAll hmem (fun _ _ _ hc => ih hc) hsites

/-! ## Reachable functions -/

theorem Traceable.visited_eq (hm : m.Traceable) (hf : f ∈ m.functions) :
    m.visited f =
      visitAll (m.followAt (m.functions.length + 2)) [f.name] (f.body.sites false) := by
  rw [visited, ((hm.statements f hf).reached_eq _ _).2]

theorem Traceable.reachable_eq_followAt (hm : m.Traceable)
    (hf : Table.find? m.functions f.name = some f) (c : Code) :
    m.reachable f = (fun names => (Datum.texts names).eraseDups) <$>
      m.followAt (m.functions.length + 3) [] c (Code.text f.name) := by
  have hmem := (Table.find?_eq_some hf).1
  rw [reachable, hm.visited_eq hmem, followAt_succ, if_neg not_mem_nil, hf]
  simp only [hm.reachedFrom_eq hmem, Functor.map_map]
  rfl

theorem room_nil (h : m.functions.length + 1 ≤ depth) : m.Room depth [] :=
  ⟨[], nodup_nil, nil_subset _, nil_subset _, h⟩

/-- The functions that are reached from a function are asked for with success exactly if the calls
that it leads to are admitted; they are then the functions that these calls lead to, each one once.
Otherwise the error is shown at a place.  Calls that nest deeper than the module has functions
change nothing. -/
theorem reachable_iff_admits (hm : m.Traceable) (hf : Table.find? m.functions f.name = some f) :
    ((∃ names, m.reachable f = .ok names) ↔ m.Admits f.name) ∧
    (∀ names, m.reachable f = .ok names →
      names.Nodup ∧ ∀ k, k ∈ names ↔ ReflTransGen m.Calls f.name k) ∧
    (∀ e, m.reachable f = .error e → ∃ l, e = .located l) ∧
    ∀ depth, m.functions.length + 2 ≤ depth →
      f.body.reachedBody (m.followAt depth) [f.name] =
        f.body.reachedBody (m.followAt (m.functions.length + 2)) [f.name] := by
  have hmem := (Table.find?_eq_some hf).1
  have hstart : m.Room (m.functions.length + 3) [] := room_nil (by omega)
  have heq := hm.reachable_eq_followAt hf (.pass none)
  have hok : ∀ names, m.reachable f = .ok names → ∃ own,
      m.followAt (m.functions.length + 3) [] (.pass none) (Code.text f.name) = .ok own ∧
        names = (Datum.texts own).eraseDups := by
    intro names h
    rw [heq, map_eq_pure_bind] at h
    obtain ⟨own, hown, hpure⟩ := bind_eq_ok_iff.1 h
    cases hpure
    exact ⟨own, hown, rfl⟩
  refine ⟨⟨?_, fun hadmits => ?_⟩, fun names h => ?_, fun e h => ?_, fun depth hdepth => ?_⟩
  · rintro ⟨names, h⟩
    obtain ⟨own, hown, -⟩ := hok names h
    exact (hm.admits_of_followAt hown).1
  · obtain ⟨own, hown⟩ := hm.exists_followAt_eq_ok hstart hadmits
      (fun _ _ => not_mem_nil) (.pass none)
    rw [heq, hown]
    exact ⟨_, rfl⟩
  · obtain ⟨own, hown, rfl⟩ := hok names h
    refine ⟨nodup_eraseDups _, fun k => ?_⟩
    rw [mem_eraseDups, Datum.mem_texts]
    exact (hm.admits_of_followAt hown).2.2 k
  · rw [reachable, hm.visited_eq hmem] at h
    cases hsites : visitAll (m.followAt (m.functions.length + 2)) [f.name] (f.body.sites false) with
    | ok own =>
      rw [hsites] at h
      cases h
    | error e' =>
      rw [hsites] at h
      cases h
      exact hm.located_of_visitAll hmem (fun _ _ _ hc => hm.located_of_followAt hc) hsites
  · have hroom := hstart.push not_mem_nil hf
    have hroom' : m.Room depth [f.name] := by
      obtain ⟨way, hnodup, hnames, hstack, hlen⟩ := hroom
      exact ⟨way, hnodup, hnames, hstack, by omega⟩
    rw [((hm.statements f hmem).reached_eq _ _).2, ((hm.statements f hmem).reached_eq _ _).2]
    refine visitAll_congr fun s hs => ?_
    obtain ⟨j, hj⟩ := (hm.statements f hmem).callee_of_mem hs
    rw [hj]
    exact hm.followAt_eq hroom' hroom s.node j

section Sample

/-- A function that returns its parameter, with an object of a class as a global. -/
def sampleOwner (kind : String) : Func :=
  { sampleLast with
    globals := [⟨samplePlace, "v", kind, .nothing, .datum (.record kind [("a", .int 0)])⟩] }

/-- A function that calls one with an object. -/
def sampleObjects (kind : String) : Module := ⟨[], [], [sampleMiddle, sampleOwner kind]⟩

theorem traceable_sampleObjects : (sampleObjects "Point").Traceable where
  statements := by
    refine forall_mem_cons.2 ⟨⟨_, .inr ⟨_, rfl⟩, forall_mem_singleton.2 ?_⟩,
      forall_mem_singleton.2 ⟨_, .inr ⟨_, rfl⟩, forall_mem_singleton.2 (.ret .name)⟩⟩
    exact .bareCall ⟨_, _, _, rfl, trivial, forall_mem_singleton.2 .name⟩
  placed :=
    forall_mem_cons.2 ⟨forall_mem_singleton.2 ⟨_, _, _, rfl, rfl, rfl⟩,
      forall_mem_singleton.2 (forall_mem_nil _)⟩
  plain :=
    forall_mem_cons.2 ⟨forall_mem_nil _, forall_mem_singleton.2
      (forall_mem_singleton.2 ⟨⟨⟨_, rfl⟩, .record "Point" [("a", .int 0)], rfl⟩, by decide⟩)⟩

/-- A call is followed to a function with an object. -/
theorem reachable_iff_admits_object : (sampleObjects "Point").Traceable ∧
    Table.find? (sampleObjects "Point").functions "g" = some sampleMiddle ∧
    (sampleObjects "Point").reachable sampleMiddle = .ok ["g", "h"] ∧
    (sampleObjects "Point").Admits "g" := by
  have hreach : (sampleObjects "Point").reachable sampleMiddle = .ok ["g", "h"] := by
    cbv
  exact ⟨traceable_sampleObjects, rfl, hreach,
    (reachable_iff_admits traceable_sampleObjects rfl).1.1 ⟨_, hreach⟩⟩

theorem calls_sampleObjects {kind : String} (h : (sampleObjects kind).Calls k n) :
    k = "g" ∧ n = "h" := by
  obtain ⟨g, hg, s, hs, hcallee⟩ := h
  obtain ⟨hmem, rfl⟩ := Table.find?_eq_some hg
  rcases mem_cons.1 hmem with rfl | hmem
  · cases mem_singleton.1 hs
    cases hcallee
    exact ⟨rfl, rfl⟩
  · cases mem_singleton.1 hmem
    exact nomatch hs

/-- An object of a class with the name of calls is taken for a call, so that the functions that are
reached cannot be told. -/
theorem reachable_of_call_object : (sampleObjects "Call").Admits "g" ∧
    (sampleObjects "Call").reachable sampleMiddle = .error (.noMember "Call" "func") := by
  refine ⟨?_, rfl⟩
  refine .of_step rfl (forall_mem_singleton.2 rfl) fun j hj => ?_
  obtain ⟨-, rfl⟩ := calls_sampleObjects hj
  refine ⟨.of_step rfl (forall_mem_nil _) fun j hj => ?_, fun hback => ?_⟩
  · exact absurd (calls_sampleObjects hj).1 (by decide)
  · rcases hback.cases_head with hback | ⟨j, hj, -⟩
    · exact absurd hback (by decide)
    · exact absurd (calls_sampleObjects hj).1 (by decide)

end Sample

end Module

end DataDiagram
