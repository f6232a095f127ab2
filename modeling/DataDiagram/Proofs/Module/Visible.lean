import DataDiagram.Proofs.Code.Names
import DataDiagram.Proofs.Module.Scope
/-!
# Names in a scoped module

A function without its locals mentions the names that it mentioned before, locals under their new
names.  Where the new names are fresh, it passes the check of names as it did before, no two of its
names become one, and the module has the variables that its functions declare.
-/

namespace DataDiagram

open Code List

namespace Func

variable {f g : Func} {m : Module}

/-- A function whose body is made of statements. -/
def HasStatements (f : Func) : Prop :=
  ∃ body, (f.body = .tuple body ∨ ∃ r, f.body = .block r body) ∧ ∀ c ∈ body, IsStatement c

/-- The names in a function are those that it can see, and it assigns to no argument. -/
def Visible (f : Func) : Prop := f.body.Visible f.args ((f.globals ++ f.locals).map Var.name)

theorem WellFormed.hasStatements (h : f.WellFormed m) : f.HasStatements := by
  obtain ⟨r, body, hbody, hstmts⟩ := h.body
  exact ⟨body, .inr ⟨r, hbody⟩, hstmts⟩

theorem HasStatements.exists_items (h : f.HasStatements) :
    ∃ body, f.body.items = .ok body ∧ f.body.mentioned = mentionedAll body ∧
      f.body.assigned = assignedAll body ∧ ∀ c ∈ body, IsStatement c := by
  obtain ⟨body, hbody | ⟨r, hbody⟩, hstmts⟩ := h
  · rw [hbody]
    exact ⟨body, rfl, rfl, rfl, hstmts⟩
  · rw [hbody]
    exact ⟨body, rfl, rfl, rfl, hstmts⟩

theorem HasStatements.checkNames_iff (h : f.HasStatements) : f.checkNames = .ok () ↔ f.Visible := by
  obtain ⟨body, hitems, hmentioned, hassigned, hstmts⟩ := h.exists_items
  unfold checkNames Func.Visible Code.Visible
  rw [hitems, hmentioned, hassigned]
  exact Statement.checkNamesAll_iff hstmts

theorem relabels_lifting (f : Func) : f.lifting.Relabels f.outerName := by
  intro x
  rw [lifting, ofNames_lifting, outerName]
  by_cases hx : x ∈ f.locals.map Var.name
  · rw [if_pos hx, if_pos hx]
    exact .inr rfl
  · rw [if_neg hx, if_neg hx]
    exact .inl ⟨rfl, rfl⟩

theorem HasStatements.liftLocals (h : f.HasStatements) (hlift : f.liftLocals = .ok g) :
    g.HasStatements ∧ g.body.mentioned = f.body.mentioned.map f.outerName ∧
      g.body.assigned = f.body.assigned.map f.outerName := by
  obtain ⟨body, hitems, hmentioned, hassigned, hstmts⟩ := h.exists_items
  obtain ⟨stmts, body', hitems', hsubst, rfl⟩ := liftLocals_eq_ok hlift
  cases hitems.symm.trans hitems'
  obtain ⟨hstmts', hnames, hassigned'⟩ := Statement.names_substAll f.relabels_lifting hstmts hsubst
  rw [hmentioned, hassigned]
  exact ⟨⟨body', .inl rfl, hstmts'⟩, hnames, hassigned'⟩

variable {x : String}

theorem outerName_of_mem (hx : x ∈ Table.names f.locals) : f.outerName x = f.localName x :=
  if_pos hx

theorem outerName_of_not_mem (hx : x ∉ Table.names f.locals) : f.outerName x = x :=
  if_neg hx

/-- Arguments and globals keep their names. -/
theorem WellFormed.outerName_eq (h : f.WellFormed m)
    (hx : x ∈ f.args ++ Table.names f.globals) : f.outerName x = x := by
  refine outerName_of_not_mem fun hlocal => ?_
  rcases mem_append.1 hx with hx | hx
  · exact h.args_locals hx hlocal
  · exact h.globals_locals hx hlocal

theorem WellFormed.names_globals_subset (h : f.WellFormed m) :
    Table.names f.globals ⊆ Table.names m.vars := by
  intro x hx
  obtain ⟨v, hv, rfl⟩ := mem_map.1 hx
  exact Table.isSome_find?_iff.1 (Option.isSome_iff_exists.2 ⟨v, h.globals v hv⟩)

theorem Visible.cases (h : f.Visible) (hx : x ∈ f.body.mentioned) :
    x ∈ Table.names f.locals ∨ x ∉ Table.names f.locals ∧ x ∈ f.args ++ Table.names f.globals := by
  by_cases hlocal : x ∈ Table.names f.locals
  · exact .inl hlocal
  · refine .inr ⟨hlocal, mem_append.2 ?_⟩
    refine (h.1 x hx).imp_right fun hvar => ?_
    rw [map_append] at hvar
    exact (mem_append.1 hvar).resolve_right hlocal

end Func

/-! ## Fresh names -/

namespace Module

variable {m s : Module} {functions selected : List String} {f g : Func}

/-- The names that the locals of some functions get differ from each other, from the variables of
the module and from the parameters of these functions. -/
structure Fresh (m : Module) (selected : List String) : Prop where
  distinct : ∀ f ∈ m.functions, f.name ∈ selected → ∀ x ∈ Table.names f.locals,
    ∀ f' ∈ m.functions, f'.name ∈ selected → ∀ x' ∈ Table.names f'.locals,
      f.localName x = f'.localName x' → f.name = f'.name ∧ x = x'
  vars : ∀ f ∈ m.functions, f.name ∈ selected → ∀ x ∈ Table.names f.locals,
    f.localName x ∉ Table.names m.vars
  args : ∀ f ∈ m.functions, f.name ∈ selected → ∀ x ∈ Table.names f.locals,
    ∀ f' ∈ m.functions, f'.name ∈ selected → f.localName x ∉ f'.args

set_option synthInstance.maxSize 256 in
instance (m : Module) (selected : List String) : Decidable (m.Fresh selected) :=
  decidable_of_iff (_ ∧ _ ∧ _)
    ⟨fun h => ⟨h.1, h.2.1, h.2.2⟩, fun h => ⟨h.distinct, h.vars, h.args⟩⟩

/-- The name that a local gets is no name that the function can see. -/
theorem Fresh.localName_ne (hfresh : m.Fresh selected) (hwf : f.WellFormed m) (hf : f ∈ m.functions)
    (hselected : f.name ∈ selected) {x y : String} (hx : x ∈ Table.names f.locals)
    (hy : y ∈ f.args ++ Table.names f.globals) : f.localName x ≠ y := by
  rintro rfl
  rcases mem_append.1 hy with hy | hy
  · exact hfresh.args f hf hselected x hx f hf hselected hy
  · exact hfresh.vars f hf hselected x hx (hwf.names_globals_subset hy)

theorem Fresh.injOn_outerName (hfresh : m.Fresh selected) (hwf : f.WellFormed m)
    (hf : f ∈ m.functions) (hselected : f.name ∈ selected) (hvisible : f.Visible) :
    ∀ x ∈ f.body.mentioned, ∀ y ∈ f.body.mentioned, f.outerName x = f.outerName y → x = y := by
  intro x hx y hy heq
  rcases hvisible.cases hx with hx | ⟨hx, hxs⟩
  · rw [Func.outerName_of_mem hx] at heq
    rcases hvisible.cases hy with hy | ⟨hy, hys⟩
    · rw [Func.outerName_of_mem hy] at heq
      exact (hfresh.distinct f hf hselected x hx f hf hselected y hy heq).2
    · rw [Func.outerName_of_not_mem hy] at heq
      exact absurd heq (hfresh.localName_ne hwf hf hselected hx hys)
  · rw [Func.outerName_of_not_mem hx] at heq
    rcases hvisible.cases hy with hy | ⟨hy, -⟩
    · rw [Func.outerName_of_mem hy] at heq
      exact absurd heq.symm (hfresh.localName_ne hwf hf hselected hy hxs)
    · rwa [Func.outerName_of_not_mem hy] at heq

theorem Fresh.visible_liftLocals (hfresh : m.Fresh selected) (hwf : f.WellFormed m)
    (hf : f ∈ m.functions) (hselected : f.name ∈ selected) (hvisible : f.Visible)
    (hlift : f.liftLocals = .ok g) : g.Visible := by
  obtain ⟨-, hmentioned, hassigned⟩ := hwf.hasStatements.liftLocals hlift
  obtain ⟨_, _, -, -, rfl⟩ := Func.liftLocals_eq_ok hlift
  unfold Func.Visible Code.Visible
  rw [hmentioned, hassigned, forall_mem_map, forall_mem_map, append_nil, map_append,
    map_map]
  constructor
  · intro x hx
    rcases hvisible.cases hx with hx | ⟨hx, hxs⟩
    · obtain ⟨v, hv, rfl⟩ := mem_map.1 hx
      rw [Func.outerName_of_mem hx]
      exact .inr (mem_append_right _ (mem_map_of_mem hv))
    · rw [Func.outerName_of_not_mem hx]
      exact (mem_append.1 hxs).imp_right (mem_append_left _)
  · intro x hx
    by_cases hlocal : x ∈ Table.names f.locals
    · rw [Func.outerName_of_mem hlocal]
      exact hfresh.args f hf hselected x hlocal f hf hselected
    · rw [Func.outerName_of_not_mem hlocal]
      exact hvisible.2 x hx

/-! ## Scoped modules -/

theorem checkNames_iff : m.checkNames = .ok () ↔ ∀ f ∈ m.functions, f.checkNames = .ok () := by
  unfold checkNames
  induction m.functions with
  | nil => exact ⟨fun _ => forall_mem_nil _, fun _ => rfl⟩
  | cons f fs ih =>
    have hcons : (f :: fs).forM Func.checkNames = (do f.checkNames; fs.forM Func.checkNames) := rfl
    rw [hcons, unit_bind_eq_ok_iff, forall_mem_cons]
    exact and_congr_right fun _ => ih

variable {v w : Var}

theorem eq_of_count_eq_one {vs : List Var} (hv : v ∈ vs) (hw : w ∈ vs)
    (hname : w.name = v.name) (hcount : (vs.map Var.name).count v.name = 1) : w = v := by
  rw [List.count, countP_map, countP_eq_length_filter, length_eq_one_iff] at hcount
  obtain ⟨u, hu⟩ := hcount
  have hmem {x : Var} (hx : x ∈ vs) (hxname : x.name = v.name) : x = u := by
    rw [← mem_singleton, ← hu, mem_filter]
    exact ⟨hx, beq_iff_eq.2 hxname⟩
  rw [hmem hw hname, hmem hv rfl]

theorem Fresh.lifted_ne (hfresh : m.Fresh selected) (hf : f ∈ m.functions)
    (hselected : f.name ∈ selected) {x : Var} (hx : x ∈ f.locals) (hwf : g.WellFormed m)
    (hv : v ∈ g.globals) : (f.lifted x).name ≠ v.name := by
  intro hname
  have hnot := hfresh.vars f hf hselected x.name (mem_map_of_mem hx)
  have hmem : v.name ∈ Table.names m.vars := hwf.names_globals_subset (mem_map_of_mem hv)
  rw [← hname] at hmem
  exact hnot hmem

/-- A variable that a function declares once is declared in the same way wherever it is. -/
theorem Fresh.eq_of_mem_globals (hfresh : m.Fresh selected) (hm : m.Settled) {f' g' : Func}
    (hf : f ∈ m.functions) (hselected : f.name ∈ selected) (hlift : f.liftLocals = .ok g)
    (hf' : f' ∈ m.functions) (hselected' : f'.name ∈ selected) (hlift' : f'.liftLocals = .ok g')
    (hv : v ∈ g.globals) (hw : w ∈ g'.globals) (hname : w.name = v.name)
    (hcount : (g.globals.map Var.name).count v.name = 1) : w = v := by
  have hwf := (hm.wellFormed.functions f hf).2
  have hwf' := (hm.wellFormed.functions f' hf').2
  have hv' := hv
  have hw' := hw
  rw [Func.globals_of_liftLocals hlift, mem_append] at hv'
  rw [Func.globals_of_liftLocals hlift', mem_append] at hw'
  rcases hv' with hv' | hv'
  · rcases hw' with hw' | hw'
    · have hfind := hwf'.globals w hw'
      rw [hname, hwf.globals v hv'] at hfind
      exact (Option.some.inj hfind).symm
    · obtain ⟨y, hy, rfl⟩ := mem_map.1 hw'
      exact absurd hname (hfresh.lifted_ne hf' hselected' hy hwf hv')
  · obtain ⟨x, hx, rfl⟩ := mem_map.1 hv'
    rcases hw' with hw' | hw'
    · exact absurd hname.symm (hfresh.lifted_ne hf hselected hx hwf' hw')
    · obtain ⟨y, hy, rfl⟩ := mem_map.1 hw'
      -- both are locals, so of one function, which declares the name once
      have hsame := (hfresh.distinct f' hf' hselected' y.name (mem_map_of_mem hy)
        f hf hselected x.name (mem_map_of_mem hx) hname).1
      obtain rfl := hm.eq_of_name_eq hf hf' hsame
      rw [hlift] at hlift'
      cases hlift'
      exact eq_of_count_eq_one hv hw hname hcount

theorem exists_unlifted (h : m.scope functions = .ok s) (hg : g ∈ s.functions) :
    ∃ f ∈ m.functions, f.name ∈ Table.names s.functions ∧ f.liftLocals = .ok g := by
  obtain ⟨-, hlifted, -⟩ := scope_eq_ok h
  obtain ⟨f, hf, hlift⟩ := hlifted g hg
  exact ⟨f, hf, Func.name_of_liftLocals hlift ▸ mem_map_of_mem hg, hlift⟩

/-- A scoped module has the variables of its functions, as a function declares them that declares
them once. -/
theorem Fresh.find?_vars (hm : m.Settled) (h : m.scope functions = .ok s)
    (hfresh : m.Fresh (Table.names s.functions)) (hg : g ∈ s.functions)
    (hv : v ∈ g.globals) : v.name ∈ Table.names s.vars ∧
      ((g.globals.map Var.name).count v.name = 1 → Table.find? s.vars v.name = some v) := by
  rw [vars_eq h]
  have hmem : v ∈ s.functions.flatMap Func.globals := mem_flatMap.2 ⟨g, hg, hv⟩
  refine ⟨Table.mem_names_ofList.2 (mem_map_of_mem hmem), fun hcount => ?_⟩
  refine Table.find?_ofList hmem fun w hw hname => ?_
  obtain ⟨g', hg', hw⟩ := mem_flatMap.1 hw
  obtain ⟨f, hf, hselected, hlift⟩ := exists_unlifted h hg
  obtain ⟨f', hf', hselected', hlift'⟩ := exists_unlifted h hg'
  exact hfresh.eq_of_mem_globals hm hf hselected hlift hf' hselected' hlift' hv hw hname hcount

/-- Cutting a module down keeps its names in order where the new names of locals are fresh: the
check accepts the module, its functions have no locals, every name in a body is a parameter or a
variable that the function declares and the module has, and no two names of a body become one. -/
theorem checkNames_scope (hset : m.Settled)
    (hcheck : m.checkNames = .ok ()) (h : m.scope functions = .ok s)
    (hfresh : m.Fresh (Table.names s.functions)) :
    s.checkNames = .ok () ∧
    (∀ g ∈ s.functions, g.locals = [] ∧ ∀ x ∈ g.body.mentioned, x ∈ g.args ∨
      ∃ v ∈ g.globals, v.name = x ∧ x ∈ Table.names s.vars ∧
        ((g.globals.map Var.name).count x = 1 → Table.find? s.vars x = some v)) ∧
    ∀ f ∈ m.functions, f.name ∈ Table.names s.functions →
      (∃ g ∈ s.functions, g.name = f.name ∧ g.args = f.args ∧
        g.body.mentioned = f.body.mentioned.map f.outerName) ∧
      (∀ x ∈ f.body.mentioned, ∀ y ∈ f.body.mentioned, f.outerName x = f.outerName y → x = y) ∧
      ∀ x ∈ f.args ++ Table.names f.globals, f.outerName x = x := by
  have hvisible : ∀ f ∈ m.functions, f.Visible := by
    intro f hf
    have hwf := (hset.wellFormed.functions f hf).2
    exact hwf.hasStatements.checkNames_iff.1 (checkNames_iff.1 hcheck f hf)
  have hlifted : ∀ g ∈ s.functions, g.HasStatements ∧ g.Visible := by
    intro g hg
    obtain ⟨f, hf, hselected, hlift⟩ := exists_unlifted h hg
    have hwf := (hset.wellFormed.functions f hf).2
    exact ⟨(hwf.hasStatements.liftLocals hlift).1,
      hfresh.visible_liftLocals hwf hf hselected (hvisible f hf) hlift⟩
  refine ⟨checkNames_iff.2 fun g hg => (hlifted g hg).1.checkNames_iff.2 (hlifted g hg).2, ?_, ?_⟩
  · intro g hg
    obtain ⟨f, -, -, hlift⟩ := exists_unlifted h hg
    have hlocals : g.locals = [] := by
      obtain ⟨_, _, -, -, rfl⟩ := Func.liftLocals_eq_ok hlift
      rfl
    refine ⟨hlocals, fun x hx => ((hlifted g hg).2.1 x hx).imp_right fun hvar => ?_⟩
    rw [hlocals, append_nil] at hvar
    obtain ⟨v, hv, rfl⟩ := mem_map.1 hvar
    obtain ⟨hmem, hfind⟩ := hfresh.find?_vars hset h hg hv
    exact ⟨v, hv, rfl, hmem, hfind⟩
  · intro f hf hselected
    have hwf := (hset.wellFormed.functions f hf).2
    obtain ⟨g, hg, hlift⟩ := hset.exists_lifted h hf hselected
    obtain ⟨-, hmentioned, -⟩ := hwf.hasStatements.liftLocals hlift
    refine ⟨⟨g, hg, Func.name_of_liftLocals hlift, ?_, hmentioned⟩, ?_,
      fun x hx => hwf.outerName_eq hx⟩
    · obtain ⟨_, _, -, -, rfl⟩ := Func.liftLocals_eq_ok hlift
      rfl
    · exact hfresh.injOn_outerName hwf hf hselected (hvisible f hf)

section Sample

/-- Two functions with a local of one name and a variable that they share. -/
def sharedText : String :=
  "c: int = 0\n" ++
  "def g(n):\n global c\n t: int = 1\n t = n + c\n c = t\n" ++
  "def f():\n global c\n t: int = 2\n g(t)\n c += t\n"

theorem fresh_sharedText : (scopedText sharedText []).map (fun ms =>
    (decide (ms.1.Fresh (Table.names ms.2.functions)), Table.names ms.2.functions,
      Table.names ms.2.vars)) = some (true, ["f", "g"], ["c", "f_t", "g_t"]) := by
  decide +kernel

theorem checkNames_scope_shared : ∃ m s, Module.ofText sharedText = .ok m ∧ m.Settled ∧
    m.checkNames = .ok () ∧
    m.scope [] = .ok s ∧ m.Fresh (Table.names s.functions) ∧
    Table.names s.functions = ["f", "g"] ∧ Table.names s.vars = ["c", "f_t", "g_t"] ∧
    s.checkNames = .ok () ∧ ∀ g ∈ s.functions, g.locals = [] := by
  obtain ⟨m, s, hm, hcheck, hs, hview⟩ := exists_of_scopedText fresh_sharedText
  simp only [Prod.mk.injEq, decide_eq_true_eq] at hview
  obtain ⟨hfresh, hfunctions, hvars⟩ := hview
  have hset := settled_ofText hm
  obtain ⟨hscoped, hnames, -⟩ := checkNames_scope hset hcheck hs hfresh
  exact ⟨m, s, hm, hset, hcheck, hs, hfresh, hfunctions, hvars, hscoped,
    fun g hg => (hnames g hg).1⟩

end Sample

end Module

end DataDiagram
