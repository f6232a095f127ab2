import DataDiagram.Module.Scope
import DataDiagram.Proofs.Module.Reach
/-!
# What a scoped module is made of

Its functions are those that were asked for and all that they reach, without locals; its variables
are the ones that these functions declare, and its classes the types of these variables.
-/

namespace DataDiagram

open Code List

/-! ## Tables -/

namespace Table

variable {α : Type} [Named α]

theorem find?_cons (e : α) (rest : List α) (x : String) :
    find? (e :: rest) x = if Named.name e = x then some e else find? rest x := by
  rw [find?, List.find?_cons]
  by_cases h : Named.name e = x
  · simp [h]
  · rw [beq_false_of_ne h, if_neg h]
    rfl

theorem find?_put (table : List α) (d : α) (x : String) :
    find? (put table d) x = if Named.name d = x then some d else find? table x := by
  induction table with
  | nil => exact find?_cons d [] x
  | cons e rest ih =>
    rw [put, find?_cons]
    by_cases he : Named.name e = Named.name d
    · rw [if_pos (beq_iff_eq.2 he), find?_cons, he]
      by_cases hx : Named.name d = x
      · rw [if_pos hx, if_pos hx]
      · rw [if_neg hx, if_neg hx, if_neg hx]
    · rw [if_neg (mt beq_iff_eq.1 he), find?_cons, ih]
      by_cases hx : Named.name e = x
      · have hd : Named.name d ≠ x := fun hd => he (hx.trans hd.symm)
        rw [if_pos hx, if_neg hd, if_pos hx]
      · rw [if_neg hx, if_neg hx]

theorem find?_putAll (table ds : List α) (x : String) : find? (putAll table ds) x =
      (ds.reverse.find? fun d => Named.name d == x).or (find? table x) := by
  induction ds generalizing table with
  | nil => rfl
  | cons d ds ih =>
    have hput : putAll table (d :: ds) = putAll (put table d) ds := rfl
    rw [hput, ih, find?_put, reverse_cons, List.find?_append, List.find?_singleton,
      Option.or_assoc]
    by_cases hd : Named.name d = x
    · simp [hd]
    · simp [hd]

variable {ds table : List α} {d : α}

theorem mem_names_ofList {x : String} : x ∈ names (ofList ds) ↔ x ∈ names ds := by
  rw [← isSome_find?_iff, ofList, find?_putAll]
  simp [find?, names]

variable {e : α}

theorem mem_of_mem_put (h : e ∈ put table d) : e = d ∨ e ∈ table := by
  induction table with
  | nil => exact .inl (mem_singleton.1 h)
  | cons a rest ih =>
    rw [put] at h
    split at h
    · exact (mem_cons.1 h).imp_right (mem_cons_of_mem a)
    · rcases mem_cons.1 h with rfl | h
      · exact .inr mem_cons_self
      · exact (ih h).imp_right (mem_cons_of_mem a)

theorem mem_of_mem_putAll (h : e ∈ putAll table ds) : e ∈ ds ∨ e ∈ table := by
  induction ds generalizing table with
  | nil => exact .inr h
  | cons d ds ih =>
    rcases ih h with h | h
    · exact .inl (mem_cons_of_mem d h)
    · rcases mem_of_mem_put h with rfl | h
      · exact .inl mem_cons_self
      · exact .inr h

theorem mem_of_mem_ofList (h : e ∈ ofList ds) : e ∈ ds :=
  (mem_of_mem_putAll h).resolve_right not_mem_nil

theorem find?_ofList (hd : d ∈ ds) (hsame : ∀ e ∈ ds, Named.name e = Named.name d → e = d) :
    find? (ofList ds) (Named.name d) = some d := by
  have hsome : (ds.reverse.find? fun e => Named.name e == Named.name d).isSome = true := by
    rw [List.find?_isSome]
    exact ⟨d, mem_reverse.2 hd, beq_self_eq_true _⟩
  obtain ⟨e, he⟩ := Option.isSome_iff_exists.1 hsome
  have hmem := mem_reverse.1 (mem_of_find?_eq_some he)
  have hname : Named.name e = Named.name d := by simpa using List.find?_some he
  rw [ofList, find?_putAll, he, hsame e hmem hname]
  rfl

theorem putAll_eq_append (h : (names (table ++ ds)).Nodup) : putAll table ds = table ++ ds := by
  induction ds generalizing table with
  | nil => exact (append_nil table).symm
  | cons d ds ih =>
    have hd : Named.name d ∉ names table := by
      rw [names, map_append, map_cons] at h
      exact fun hmem => disjoint_of_nodup_append h hmem mem_cons_self
    have hput : putAll table (d :: ds) = putAll (table ++ [d]) ds := by
      rw [← put_eq_append hd]
      rfl
    rw [append_cons] at h ⊢
    rw [hput, ih h]

theorem ofList_eq (h : (names ds).Nodup) : ofList ds = ds := putAll_eq_append h

theorem names_eq {ns : List String}
    (h : List.Forall₂ (fun n d => Named.name d = n) ns ds) : names ds = ns := by
  induction h with
  | nil => rfl
  | cons hd _ ih => exact congrArg₂ List.cons hd ih

end Table

/-! ## Functions without locals -/

namespace Func

/-- A local as a variable of a module. -/
def lifted (f : Func) (v : Var) : Var := { v with name := f.localName v.name }

def lifting (f : Func) : Substitution :=
  .ofNames (f.locals.map fun v => (v.name, f.localName v.name))

variable {f g : Func}

theorem globalised_eq_ok {locals vars : List Var} (h : f.globalised locals = .ok vars) :
    vars = locals.map f.lifted := by
  induction locals generalizing vars with
  | nil => exact (Except.ok.inj h).symm
  | cons v locals ih =>
    simp only [globalised, bind_eq_ok_iff] at h
    obtain ⟨_, -, more, hmore, hpure⟩ := h
    cases hpure
    rw [ih hmore]
    rfl

/-- What a function without its locals is made of. -/
theorem liftLocals_eq_ok (h : f.liftLocals = .ok g) :
    ∃ stmts body, f.body.items = .ok stmts ∧ substAll f.lifting stmts = .ok body ∧
      g = { f with
        body := .tuple body
        globals := f.globals ++ f.locals.map f.lifted
        locals := [] } := by
  simp only [liftLocals, bind_eq_ok_iff] at h
  obtain ⟨vars, hvars, stmts, hstmts, body, hbody, _, -, hpure⟩ := h
  cases hpure
  rw [globalised_eq_ok hvars]
  exact ⟨stmts, body, hstmts, hbody, rfl⟩

theorem ofNames_lifting (f : Func) (locals : List Var) (x : String) :
    Substitution.ofNames (locals.map fun v => (v.name, f.localName v.name)) x =
      if x ∈ locals.map Var.name then some (text (f.localName x)) else none := by
  induction locals with
  | nil => rfl
  | cons v locals ih =>
    have hcons : Substitution.ofNames ((v :: locals).map fun v => (v.name, f.localName v.name)) x =
        (Substitution.ofNames (locals.map fun v => (v.name, f.localName v.name)) x).or
          (if v.name = x then some (text (f.localName v.name)) else none) :=
      Substitution.ofList_cons ..
    rw [hcons, ih, map_cons]
    by_cases hx : x ∈ locals.map Var.name
    · rw [if_pos hx, if_pos (mem_cons_of_mem _ hx)]
      rfl
    · by_cases hv : v.name = x
      · subst hv
        rw [if_neg hx, if_pos rfl, if_pos mem_cons_self]
        rfl
      · have hcons : x ∉ v.name :: locals.map Var.name :=
          fun h => (mem_cons.1 h).elim (fun h => hv h.symm) hx
        rw [if_neg hx, if_neg hv, if_neg hcons]
        rfl

theorem quiet_lifting (f : Func) : f.lifting.Quiet := by
  intro x a ha
  rw [lifting, ofNames_lifting] at ha
  split at ha
  · cases ha
    rfl
  · exact nomatch ha

theorem name_of_liftLocals (h : f.liftLocals = .ok g) : g.name = f.name := by
  obtain ⟨_, _, -, -, rfl⟩ := liftLocals_eq_ok h
  rfl

theorem globals_of_liftLocals (h : f.liftLocals = .ok g) :
    g.globals = f.globals ++ f.locals.map f.lifted := by
  obtain ⟨_, _, -, -, rfl⟩ := liftLocals_eq_ok h
  rfl

theorem within_of_liftLocals (h : f.liftLocals = .ok g) {N : String → Prop}
    (hcalls : Within N f.body.calls) : Within N g.body.calls := by
  obtain ⟨stmts, body, hstmts, hbody, rfl⟩ := liftLocals_eq_ok h
  have hitems := guarded_items f.body
  rw [hstmts] at hitems
  have hderived := guarded_substAll f.quiet_lifting stmts
  rw [hbody] at hderived
  intro p' hp'
  obtain ⟨p, hp, hfunction, -⟩ := hderived.calls p' hp'
  obtain ⟨n, hn, hpn⟩ := hcalls p ((calls_of_items hitems).1 ▸ hp)
  exact ⟨n, hn, hfunction n hpn⟩

end Func

/-! ## Scoped modules -/

theorem nodup_eraseDups (names : List String) : names.eraseDups.Nodup := by
  induction hlen : names.length using Nat.strongRecOn generalizing names with
  | ind n ih =>
    cases names with
    | nil => simp
    | cons x names =>
      rw [eraseDups_cons, nodup_cons]
      refine ⟨by simp, ih _ ?_ _ rfl⟩
      have hle := length_filter_le (fun y => !y == x) names
      rw [length_cons] at hlen
      omega

namespace Module

variable {m s : Module} {functions names : List String}

/-- The functions that a module is asked to be cut down to: if none are named, those without
arguments. -/
def asked (m : Module) (functions : List String) : List String :=
  if functions.isEmpty then (m.functions.filter fun f => f.args.isEmpty).map Func.name
    else functions

variable {f : Func} {c : Class}

theorem getFunction_eq_ok {n : String} (h : m.getFunction n = .ok f) :
    Table.find? m.functions n = some f := by
  unfold getFunction at h
  split at h
  · next hfind =>
      cases h
      exact hfind
  · exact nomatch h

/-- What is selected is made of: all that is reached are functions. -/
theorem selected_eq_ok (h : m.selected functions = .ok names) : ∃ sets,
    ((m.asked functions).mapM fun n => do m.reachable (← m.getFunction n)) = .ok sets ∧
    (∃ others, ((m.asked functions).mapM fun n => do m.strangers (← m.getFunction n)) = .ok others ∧
      others.flatten = []) ∧ names = (m.asked functions ++ sets.flatten).eraseDups := by
  obtain ⟨sets, hsets, h⟩ := bind_eq_ok_iff.1 h
  obtain ⟨others, hothers, h⟩ := bind_eq_ok_iff.1 h
  split at h
  · next hnil =>
      cases h
      exact ⟨sets, hsets, ⟨others, hothers, hnil⟩, rfl⟩
  · cases h

/-- The functions that a module is cut down to: those asked for, and those that they reach. -/
theorem mem_selected_iff (h : m.selected functions = .ok names) {n : String} :
    n ∈ names ↔ n ∈ m.asked functions ∨ ∃ k ∈ m.asked functions, ∃ set,
      (do m.reachable (← m.getFunction k)) = .ok set ∧ n ∈ set := by
  obtain ⟨sets, hsets, -, rfl⟩ := selected_eq_ok h
  have hall := forall₂_of_mapM_eq_ok hsets
  rw [mem_eraseDups, mem_append]
  refine or_congr_right ⟨fun hn => ?_, ?_⟩
  · obtain ⟨set, hset, hn⟩ := mem_flatten.1 hn
    obtain ⟨k, hk, hreach⟩ := exists_mem_of_forall₂ hall.flip hset
    exact ⟨k, hk, set, hreach, hn⟩
  · rintro ⟨k, hk, set, hreach, hn⟩
    obtain ⟨set', hset', hreach'⟩ := exists_mem_of_forall₂ hall hk
    cases hreach.symm.trans hreach'
    exact mem_flatten.2 ⟨set, hset', hn⟩

theorem exists_reachable (h : m.selected functions = .ok names) :
    ∀ k ∈ m.asked functions, ∃ set, (do m.reachable (← m.getFunction k)) = .ok set := by
  obtain ⟨sets, hsets, -⟩ := selected_eq_ok h
  intro k hk
  obtain ⟨set, -, hset⟩ := exists_mem_of_forall₂ (forall₂_of_mapM_eq_ok hsets) hk
  exact ⟨set, hset⟩

/-- The functions that a module is cut down to are closed under calls. -/
theorem Settled.closed_selected (hm : m.Settled) (hnameless : m.Nameless)
    (h : m.selected functions = .ok names) : m.Closed (· ∈ names) := by
  have hreached : ∀ k ∈ m.asked functions, ∀ set,
      (do m.reachable (← m.getFunction k)) = .ok set → m.Closed (· ∈ set) ∧ k ∈ set := by
    intro k _ set hset
    obtain ⟨f, hf, hreach⟩ := bind_eq_ok_iff.1 hset
    obtain ⟨hmem, rfl⟩ := Table.find?_eq_some (getFunction_eq_ok hf)
    exact ⟨hm.closed_reachable hnameless hmem hreach, mem_reachable hreach⟩
  intro n hn
  have hset : ∃ k ∈ m.asked functions, ∃ set,
      (do m.reachable (← m.getFunction k)) = .ok set ∧ n ∈ set := by
    rcases (mem_selected_iff h).1 hn with hn | hn
    · obtain ⟨set, hset⟩ := exists_reachable h n hn
      exact ⟨n, hn, set, hset, (hreached n hn set hset).2⟩
    · exact hn
  obtain ⟨k, hk, set, hset, hn⟩ := hset
  obtain ⟨g, hg, hcalls⟩ := (hreached k hk set hset).1 n hn
  exact ⟨g, hg, hcalls.mono fun j hj => (mem_selected_iff h).2 (.inr ⟨k, hk, set, hset, hj⟩)⟩

theorem nodup_selected (h : m.selected functions = .ok names) : names.Nodup := by
  obtain ⟨_, -, -, rfl⟩ := selected_eq_ok h
  exact nodup_eraseDups _

/-- A module cut down to some functions in the order in which they are listed. -/
def scopeIn (m : Module) (names : List String) : Except CodeError Module := do
  let lifted ← names.mapM fun name => do (← m.getFunction name).liftLocals
  return m.ofLifted lifted

/-- What a module is cut down to: the functions of the list without their locals. -/
theorem scopeIn_eq_ok (hnodup : names.Nodup) (h : m.scopeIn names = .ok s) :
    List.Forall₂ (fun n g => ∃ f, Table.find? m.functions n = some f ∧ f.liftLocals = .ok g)
      names s.functions ∧ Table.names s.functions = names ∧ s = m.ofLifted s.functions := by
  obtain ⟨gs, hgs, hpure⟩ := bind_eq_ok_iff.1 h
  cases hpure
  have hall : List.Forall₂ (fun n g => ∃ f, Table.find? m.functions n = some f ∧
      f.liftLocals = .ok g) names gs := by
    refine (forall₂_of_mapM_eq_ok hgs).imp fun n g h => ?_
    obtain ⟨f, hf, hlift⟩ := bind_eq_ok_iff.1 h
    exact ⟨f, getFunction_eq_ok hf, hlift⟩
  have hgsNames : Table.names gs = names := by
    refine Table.names_eq (hall.imp fun n g h => ?_)
    obtain ⟨f, hf, hlift⟩ := h
    exact (Func.name_of_liftLocals hlift).trans (Table.find?_eq_some hf).2
  have hfunctions : (m.ofLifted gs).functions = gs := Table.ofList_eq (hgsNames ▸ hnodup)
  rw [hfunctions]
  exact ⟨hall, hgsNames, rfl⟩

theorem scope_eq_ok (h : m.scope functions = .ok s) :
    m.selected functions = .ok (Table.names s.functions) ∧
      (∀ g ∈ s.functions, ∃ f ∈ m.functions, f.liftLocals = .ok g) ∧
      s = m.ofLifted s.functions := by
  obtain ⟨names, hnames, hscope⟩ := bind_eq_ok_iff.1 h
  obtain ⟨hall, hgsNames, hs⟩ := scopeIn_eq_ok (nodup_selected hnames) hscope
  refine ⟨hgsNames ▸ hnames, ?_, hs⟩
  refine forall_mem_of_forall₂ hall (P := fun _ => True) (fun _ _ => trivial) fun n g _ h => ?_
  obtain ⟨f, hf, hlift⟩ := h
  exact ⟨f, (Table.find?_eq_some hf).1, hlift⟩

theorem Settled.eq_of_name_eq (hm : m.Settled) {f' : Func} (hf : f ∈ m.functions)
    (hf' : f' ∈ m.functions) (hname : f'.name = f.name) : f' = f := by
  have hfind := (hm.wellFormed.functions f' hf').1
  rw [hname, (hm.wellFormed.functions f hf).1] at hfind
  exact (Option.some.inj hfind).symm

theorem Settled.exists_lifted (hm : m.Settled) (h : m.scope functions = .ok s)
    (hf : f ∈ m.functions) (hname : f.name ∈ Table.names s.functions) :
    ∃ g ∈ s.functions, f.liftLocals = .ok g := by
  obtain ⟨-, hlifted, -⟩ := scope_eq_ok h
  obtain ⟨g, hg, hgname⟩ := mem_map.1 hname
  obtain ⟨f', hf', hlift⟩ := hlifted g hg
  have hsame : f'.name = f.name := (Func.name_of_liftLocals hlift).symm.trans hgname
  obtain rfl := hm.eq_of_name_eq hf hf' hsame
  exact ⟨g, hg, hlift⟩

theorem vars_eq (h : m.scope functions = .ok s) :
    s.vars = Table.ofList (s.functions.flatMap Func.globals) :=
  congrArg Module.vars (scope_eq_ok h).2.2

theorem classes_eq (h : m.scope functions = .ok s) :
    s.classes = Table.ofList (s.functions.flatMap fun f => m.classesOf f.globals) :=
  congrArg Module.classes (scope_eq_ok h).2.2

theorem mem_flatMap_classesOf {gs : List Func} : c ∈ gs.flatMap (fun f => m.classesOf f.globals) ↔
      ∃ g ∈ gs, ∃ v ∈ g.globals, Table.find? m.classes v.type = some c := by
  simp only [mem_flatMap, classesOf, mem_filterMap]

/-- A class is in a scoped module exactly if it is the type of a variable of one of its
functions. -/
theorem Settled.mem_classes_iff (hm : m.Settled) (h : m.scope functions = .ok s) :
    c ∈ s.classes ↔ c ∈ m.classes ∧ ∃ g ∈ s.functions, ∃ v ∈ g.globals, v.type = c.name := by
  rw [classes_eq h]
  constructor
  · intro hc
    obtain ⟨g, hg, v, hv, hfind⟩ := mem_flatMap_classesOf.1 (Table.mem_of_mem_ofList hc)
    obtain ⟨hmem, hname⟩ := Table.find?_eq_some hfind
    exact ⟨hmem, g, hg, v, hv, hname.symm⟩
  · rintro ⟨hc, g, hg, v, hv, htype⟩
    have hfind := (hm.wellFormed.classes c hc).1
    have hmem := mem_flatMap_classesOf.2 ⟨g, hg, v, hv, htype ▸ hfind⟩
    refine (Table.find?_eq_some (Table.find?_ofList hmem fun d hd hname => ?_)).1
    obtain ⟨g', -, v', -, hfind'⟩ := mem_flatMap_classesOf.1 hd
    have htype' : v'.type = c.name := (Table.find?_eq_some hfind').2.symm.trans hname
    rw [htype', hfind] at hfind'
    exact (Option.some.inj hfind').symm

/-- A scoped module holds the functions that were asked for, every variable that one of its
functions declares, and exactly those classes that are types of these variables.  It holds every
function that is called in one of its bodies, calls in arguments of calls aside, if no variable
starts with an object of a class with the name of functions. -/
theorem scope_closed (hm : m.Settled) (h : m.scope functions = .ok s) :
    m.asked functions ⊆ Table.names s.functions ∧
    (m.Nameless → ∀ g ∈ s.functions, ∀ p ∈ g.body.calls, ∃ f ∈ s.functions, p.1 = .text f.name) ∧
    (∀ g ∈ s.functions, ∀ v ∈ g.globals, v.name ∈ Table.names s.vars) ∧
    (∀ v ∈ s.vars, ∀ c ∈ m.classes, v.type = c.name → c ∈ s.classes) ∧
    ∀ c ∈ s.classes, c ∈ m.classes ∧ ∃ g ∈ s.functions, ∃ v ∈ g.globals, v.type = c.name := by
  obtain ⟨hselected, hlifted, -⟩ := scope_eq_ok h
  refine ⟨fun n hn => (mem_selected_iff hselected).2 (.inl hn), ?_, ?_, ?_,
    fun c hc => (hm.mem_classes_iff h).1 hc⟩
  · intro hnameless g hg p hp
    obtain ⟨f, hf, hlift⟩ := hlifted g hg
    obtain ⟨f', hfind, hcalls⟩ :=
      hm.closed_selected hnameless hselected g.name (mem_map_of_mem hg)
    rw [Func.name_of_liftLocals hlift, (hm.wellFormed.functions f hf).1] at hfind
    cases hfind
    obtain ⟨n, hn, hpn⟩ := Func.within_of_liftLocals hlift hcalls p hp
    obtain ⟨g', hg', rfl⟩ := mem_map.1 hn
    exact ⟨g', hg', hpn⟩
  · intro g hg v hv
    rw [vars_eq h, Table.mem_names_ofList]
    exact mem_map_of_mem (mem_flatMap.2 ⟨g, hg, hv⟩)
  · intro v hv c hc htype
    rw [vars_eq h] at hv
    obtain ⟨g, hg, hvg⟩ := mem_flatMap.1 (Table.mem_of_mem_ofList hv)
    exact (hm.mem_classes_iff h).2 ⟨hc, g, hg, v, hvg, htype⟩

section Sample

/-- A module whose names are in order, and the module that it is cut down to. -/
def scopedText (text : String) (functions : List String) : Option (Module × Module) := do
  let m ← (Module.ofText text).toOption
  let _ ← m.checkNames.toOption
  let s ← (m.scope functions).toOption
  return (m, s)

theorem exists_of_scopedText {α : Type} {text : String} {view : Module × Module → α} {a : α}
    (h : (scopedText text functions).map view = some a) :
    ∃ m s, Module.ofText text = .ok m ∧ m.checkNames = .ok () ∧ m.scope functions = .ok s ∧
      view (m, s) = a := by
  obtain ⟨ms, hms, hview⟩ := Option.map_eq_some_iff.1 h
  obtain ⟨m, hm, hms⟩ := Option.bind_eq_some_iff.1 hms
  obtain ⟨_, hcheck, hms⟩ := Option.bind_eq_some_iff.1 hms
  obtain ⟨s, hs, hms⟩ := Option.bind_eq_some_iff.1 hms
  cases hms
  exact ⟨m, s, eq_ok_of_toOption_eq_some hm, eq_ok_of_toOption_eq_some hcheck,
    eq_ok_of_toOption_eq_some hs, hview⟩

/-- A function that reaches an object through another function. -/
def chainText : String :=
  "class P:\n x: int\n" ++
  "q: P = P(0)\n" ++
  "def k():\n return 1\n" ++
  "def h(n):\n global q\n q.x = n\n" ++
  "def g():\n t: int = 1\n h(t)\n" ++
  "def f():\n g()\n"

theorem names_chainText : (scopedText chainText ["f"]).map (fun ms =>
    (decide ms.1.Nameless, Table.names ms.2.functions, Table.names ms.2.vars,
      Table.names ms.2.classes)) = some (true, ["f", "g", "h"], ["g_t", "q"], ["P"]) := by
  decide +kernel

theorem scope_closed_chain : ∃ m s, Module.ofText chainText = .ok m ∧ m.Settled ∧ m.Nameless ∧
    m.scope ["f"] = .ok s ∧
    Table.names s.functions = ["f", "g", "h"] ∧ Table.names s.vars = ["g_t", "q"] ∧
    Table.names s.classes = ["P"] ∧
    (∀ g ∈ s.functions, ∀ p ∈ g.body.calls, ∃ f ∈ s.functions, p.1 = .text f.name) ∧
    ∀ v ∈ s.vars, ∀ c ∈ m.classes, v.type = c.name → c ∈ s.classes := by
  obtain ⟨m, s, hm, -, hs, hnames⟩ := exists_of_scopedText names_chainText
  simp only [Prod.mk.injEq, decide_eq_true_eq] at hnames
  obtain ⟨hnameless, hfunctions, hvars, hclasses⟩ := hnames
  have hset := settled_ofText hm
  obtain ⟨-, hcalls, -, htypes, -⟩ := scope_closed hset hs
  exact ⟨m, s, hm, hset, hnameless, hs, hfunctions, hvars, hclasses, hcalls hnameless, htypes⟩

/-- A function with a call in an argument of a call, and with an object of a class that has a
parent. -/
def openText : String :=
  "class A:\n a: int\n" ++
  "class B(A):\n b: int\n" ++
  "v: B = B(0, 1)\n" ++
  "def h():\n return 1\n" ++
  "def g(n):\n return n\n" ++
  "def f():\n global v\n v.b = g(h())\n"

def callsInArgument (m : Module) (name : String) : Bool :=
  m.functions.any fun g => g.body.calls.any fun p => p.2.calls.any fun q => q.1.isAmong [name]

theorem exists_of_callsInArgument {name : String} (h : m.callsInArgument name = true) :
    ∃ g ∈ m.functions, ∃ p ∈ g.body.calls, ∃ q ∈ p.2.calls, q.1 = .text name := by
  simp only [callsInArgument, any_eq_true] at h
  obtain ⟨g, hg, p, hp, q, hq, hname⟩ := h
  refine ⟨g, hg, p, hp, q, hq, ?_⟩
  unfold isAmong at hname
  split at hname
  · next hq' => rw [hq', mem_singleton.1 (contains_iff_mem.1 hname)]
  · cases hname

theorem names_openText : (scopedText openText ["f"]).map (fun ms =>
    ((Table.names ms.1.functions, Table.names ms.2.functions, ms.2.callsInArgument "h"),
      Table.names ms.1.classes, Table.names ms.2.classes, ms.2.classes.map Class.parents)) =
      some ((["h", "g", "f"], ["f", "g"], true), ["A", "B"], ["B"], [["A"]]) := by
  decide +kernel

/-- A function that is called in an argument only is left out, and so is a parent of a class. -/
theorem scope_open : ∃ m s, Module.ofText openText = .ok m ∧ m.scope ["f"] = .ok s ∧
    (∃ g ∈ s.functions, ∃ p ∈ g.body.calls, ∃ q ∈ p.2.calls, q.1 = .text "h" ∧
      "h" ∈ Table.names m.functions ∧ "h" ∉ Table.names s.functions) ∧
    ∃ c ∈ s.classes, "A" ∈ c.parents ∧ "A" ∈ Table.names m.classes ∧
      "A" ∉ Table.names s.classes := by
  obtain ⟨m, s, hm, -, hs, hnames⟩ := exists_of_scopedText names_openText
  simp only [Prod.mk.injEq] at hnames
  obtain ⟨⟨hfunctions, hfunctions', hargument⟩, hclasses, hclasses', hparents⟩ := hnames
  refine ⟨m, s, hm, hs, ?_, ?_⟩
  · obtain ⟨g, hg, p, hp, q, hq, hname⟩ := exists_of_callsInArgument hargument
    refine ⟨g, hg, p, hp, q, hq, hname, ?_, ?_⟩
    · rw [hfunctions]
      decide
    · rw [hfunctions']
      decide
  · have hmem : ["A"] ∈ s.classes.map Class.parents := hparents ▸ mem_singleton_self _
    obtain ⟨c, hc, hparent⟩ := mem_map.1 hmem
    refine ⟨c, hc, hparent ▸ mem_singleton_self _, ?_, ?_⟩
    · rw [hclasses]
      decide
    · rw [hclasses']
      decide

end Sample

end Module

end DataDiagram
