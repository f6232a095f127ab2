import DataDiagram.Proofs.Reading.Progress
import DataDiagram.Static.Evaluator
/-!
# Modules that are read are well formed

When everything has been read, the initial values of variables are written out as they are then.  A
variable comes out the same wherever it stands, with its name, type and size, so that what has been
sound is well formed.
-/

namespace DataDiagram

open List

namespace Code

theorem ofDatum_ne_nothing {d : Datum} (h : d ≠ .none) : ofDatum d ≠ nothing := by
  cases d <;> simp_all [ofDatum]

theorem length_ofData (ds : List Datum) : (ofData ds).length = ds.length := by
  induction ds with
  | nil => rfl
  | cons d ds ih => rw [ofData, length_cons, length_cons, ih]

end Code

/-! ## Well-formed modules -/

/-- A variable whose type is known; an array starts with as many items as it has elements. -/
structure Var.WellFormed (classes : List Class) (v : Var) : Prop where
  type : Reading.IsType (Table.names classes) v.type
  size : v.size = .nothing ∨ ∃ items, v.init = .tuple items ∧ v.size = .datum (.int items.length)

/-- A class with distinct fields. -/
structure Class.WellFormed (classes : List Class) (c : Class) : Prop where
  distinct : (Table.names c.fields).Nodup
  fields : ∀ v ∈ c.fields, v.WellFormed classes

/-- A function whose names differ and refer to what there is. -/
structure Func.WellFormed (m : Module) (f : Func) : Prop where
  args_globals : f.args.Disjoint (Table.names f.globals)
  args_locals : f.args.Disjoint (Table.names f.locals)
  globals_locals : (Table.names f.globals).Disjoint (Table.names f.locals)
  globals : ∀ v ∈ f.globals, Table.find? m.vars v.name = some v
  locals : ∀ v ∈ f.locals, v.WellFormed m.classes ∧ v.init ≠ .nothing
  body : ∃ r body, f.body = .block r body ∧ ∀ c ∈ body, Code.IsStatement c

/-- A module in which names are declared once and everything that is referred to is there. -/
structure Module.WellFormed (m : Module) : Prop where
  distinct : (Table.names m.vars ++ Table.names m.classes ++ Table.names m.functions).Nodup
  vars : ∀ v ∈ m.vars, Table.find? m.vars v.name = some v ∧ v.WellFormed m.classes ∧
    v.init ≠ .nothing
  classes : ∀ c ∈ m.classes, Table.find? m.classes c.name = some c ∧ c.WellFormed m.classes
  functions : ∀ f ∈ m.functions, Table.find? m.functions f.name = some f ∧ f.WellFormed m

section Tables

variable {α β : Type} {R : α → β → Prop} {as : List α} {bs : List β}

theorem forall_mem_of_forall₂ {P : α → Prop} {Q : β → Prop} (h : List.Forall₂ R as bs)
    (hP : ∀ a ∈ as, P a) (hQ : ∀ a b, P a → R a b → Q b) : ∀ b ∈ bs, Q b := by
  induction h with
  | nil => simp
  | cons hr _ ih =>
    rw [forall_mem_cons] at hP
    exact forall_mem_cons.2 ⟨hQ _ _ hP.1 hr, ih hP.2⟩

theorem exists_mem_of_forall₂ (h : List.Forall₂ R as bs) {a : α} (ha : a ∈ as) :
    ∃ b ∈ bs, R a b := by
  induction h with
  | nil => exact absurd ha not_mem_nil
  | @cons a' b as bs hr _ ih =>
    rcases mem_cons.1 ha with rfl | ha
    · exact ⟨b, mem_cons_self, hr⟩
    · obtain ⟨b', hb', hr'⟩ := ih ha
      exact ⟨b', mem_cons_of_mem b hb', hr'⟩

end Tables

theorem Table.find?_of_mem {α : Type} [Named α] {table : List α} (h : (names table).Nodup) {d : α}
    (hd : d ∈ table) : find? table (Named.name d) = some d := by
  obtain ⟨e, he⟩ := Option.isSome_iff_exists.1 (isSome_find?_iff.2 (mem_map_of_mem hd))
  obtain ⟨hmem, hname⟩ := find?_eq_some he
  rw [he, inj_on_of_nodup_map h hmem hd hname]

/-! ## Writing out what has been read -/

namespace Reading

variable {σ V : Type} {I : Evaluator σ V} {s : σ}

theorem names_map_finish (ds : List (VarDraft V)) :
    Table.names (ds.map (VarDraft.finish I s)) = Table.names ds := by
  rw [Table.names, map_map]
  rfl

/-- What is not missing when it is read is not missing when it is written out. -/
theorem VarDraft.init_ne {d : VarDraft V} (h : d.value.isMissing I = false) :
    (d.finish I s).init ≠ .nothing := by
  refine Code.ofDatum_ne_nothing ?_
  cases hvalue : d.value with
  | missing =>
    rw [hvalue] at h
    cases h
  | items vs => simp [Initial.datum]
  | value v =>
    intro hnone
    rw [hvalue] at h
    exact absurd ((I.datum_eq_none_iff s v).1 hnone) (by simpa [Initial.isMissing] using h)

variable {classes : List Class}

theorem VarDraft.Valid.wellFormed {d : VarDraft V} (h : d.Valid (Table.names classes)) :
    (d.finish I s).WellFormed classes := by
  refine ⟨h.type, h.size.imp_right ?_⟩
  rintro ⟨items, hvalue, hsize⟩
  refine ⟨Code.ofData (items.map (I.datum s)), ?_, ?_⟩
  · simp [VarDraft.finish, hvalue, Initial.datum, Code.ofDatum]
  · simp [VarDraft.finish, Code.length_ofData, hsize]

theorem ClassDraft.Valid.wellFormed {d : ClassDraft V} (h : d.Valid (Table.names classes)) :
    (d.finish I s).WellFormed classes where
  distinct := (names_map_finish d.fields).symm ▸ h.distinct
  fields := forall_mem_map.2 fun v hv => (h.fields v hv).wellFormed

/-- A variable of the module in a function is written out as the module has it. -/
theorem FuncDraft.Valid.wellFormed {vars : List (VarDraft V)} {d : FuncDraft V} {m : Module}
    (h : d.Valid I (Table.names m.classes) vars) (hvars : m.vars = vars.map (VarDraft.finish I s))
    (hdistinct : (Table.names m.vars).Nodup) : (d.finish I s).WellFormed m where
  args_globals := (names_map_finish d.globals).symm ▸ h.args_globals
  args_locals := (names_map_finish d.locals).symm ▸ h.args_locals
  globals_locals :=
    (names_map_finish d.globals).symm ▸ (names_map_finish d.locals).symm ▸ h.globals_locals
  globals := forall_mem_map.2 fun g hg =>
    Table.find?_of_mem hdistinct (hvars ▸ mem_map_of_mem (h.globals g hg))
  locals := forall_mem_map.2 fun v hv =>
    ⟨(h.locals v hv).1.wellFormed, VarDraft.init_ne (h.locals v hv).2⟩
  body := h.body

theorem Progress.Complete.wellFormed {st : Progress V} (h : st.Complete I) :
    (st.finish I s).WellFormed := by
  obtain ⟨hvalid, hvalues⟩ := h
  have hclasses : Table.names (st.finish I s).classes = Table.names st.classes := by
    rw [Progress.finish, Table.names, map_map]
    rfl
  have hfunctions : Table.names (st.finish I s).functions = Table.names st.functions := by
    rw [Progress.finish, Table.names, map_map]
    rfl
  have hdistinct : (Table.names (st.finish I s).vars ++ Table.names (st.finish I s).classes ++
      Table.names (st.finish I s).functions).Nodup := by
    rw [hclasses, hfunctions, Progress.finish, names_map_finish]
    exact hvalid.distinct
  have hleft := hdistinct.of_append_left
  refine ⟨hdistinct, fun v hv => ⟨Table.find?_of_mem hleft.of_append_left hv, ?_⟩,
    fun c hc => ⟨Table.find?_of_mem hleft.of_append_right hc, ?_⟩,
    fun f hf => ⟨Table.find?_of_mem hdistinct.of_append_right hf, ?_⟩⟩
  · obtain ⟨d, hd, rfl⟩ := mem_map.1 hv
    exact ⟨(hclasses ▸ hvalid.vars d hd).wellFormed, VarDraft.init_ne (hvalues d hd)⟩
  · obtain ⟨d, hd, rfl⟩ := mem_map.1 hc
    exact (hclasses ▸ hvalid.classes d hd).wellFormed
  · obtain ⟨d, hd, rfl⟩ := mem_map.1 hf
    exact (hclasses ▸ hvalid.functions d hd).wellFormed rfl hleft.of_append_left

variable {lines : List String} {body : List Source.Stmt} {m : Module}

/-- What is read is written out at the end. -/
theorem readModule_eq_ok (h : readModule I lines body = .ok m) :
    ∃ st s, (readAll I lines .empty body).run I.start = (.ok st, s) ∧ m = st.finish I s := by
  unfold readModule at h
  split at h
  · next st s hrun =>
      cases h
      exact ⟨st, s, hrun, rfl⟩
  · cases h

theorem complete_readAll {st : Progress V} {n : σ}
    (h : (readAll I lines .empty body).run s = (.ok st, n)) : st.Complete I :=
  ensures_readAll lines ⟨.empty, by simp [Progress.empty]⟩ body s st n h

/-- However parts of it are evaluated, a module that is read from statements is well formed. -/
theorem readModule_wellFormed (h : readModule I lines body = .ok m) : m.WellFormed := by
  obtain ⟨st, s, hrun, rfl⟩ := readModule_eq_ok h
  exact (complete_readAll hrun).wellFormed

end Reading

/-- What is read of a text is read of its statements. -/
theorem Module.read_eq_ok {σ V : Type} {I : Reading.Evaluator σ V} {text : String} {m : Module}
    (h : Module.read I text = .ok m) : ∃ stmts, Source.read text.toList = some stmts ∧
      Reading.readModule I (Text.splitLines text) stmts = .ok m := by
  unfold Module.read at h
  split at h
  · cases h
  · split at h
    · cases h
    · split at h
      · cases h
      · next stmts hstmts => exact ⟨stmts, hstmts, h⟩

section Sample

/-- A module with a class, an array of its instances, and a function with an own variable and a
loop. -/
def sampleText : String :=
  "class P:\n x: int\n" ++
  "q: array[P] = P(0), P(1)\n" ++
  "def f(a):\n global q\n t: int = 1\n" ++
  " for i in range(2):\n  q[i].x = a + t\n"

theorem names_sampleText : (Module.ofText sampleText).toOption.map (fun m =>
    (Table.names m.vars, Table.names m.classes, Table.names m.functions)) =
      some (["q"], ["P"], ["f"]) := by
  decide +kernel

theorem Reading.readModule_wellFormed_sample : ∃ body m,
    readModule Static.evaluator (Text.splitLines sampleText) body = .ok m ∧
    Table.names m.vars = ["q"] ∧ Table.names m.classes = ["P"] ∧ Table.names m.functions = ["f"] ∧
    m.WellFormed := by
  obtain ⟨m, hm, hnames⟩ := Option.map_eq_some_iff.1 names_sampleText
  obtain ⟨body, -, hread⟩ := Module.read_eq_ok (eq_ok_of_toOption_eq_some hm)
  simp only [Prod.mk.injEq] at hnames
  exact ⟨body, m, hread, hnames.1, hnames.2.1, hnames.2.2, readModule_wellFormed hread⟩

end Sample

end DataDiagram
