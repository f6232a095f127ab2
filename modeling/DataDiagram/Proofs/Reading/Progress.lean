import DataDiagram.Reading.Module
import DataDiagram.Proofs.Reading.Lower
import Mathlib.Data.List.Nodup
/-!
# What has been read is sound

Every declaration that is read leaves the variables, classes and functions sound: names are declared
once, types are known, and what functions refer to is there.  Classes and variables are only added,
so that what has been sound stays so.
-/

namespace DataDiagram

open List

namespace Table

variable {α : Type} [Named α] {d : α} {table : List α}

theorem put_eq_append (h : Named.name d ∉ names table) : put table d = table ++ [d] := by
  induction table with
  | nil => rfl
  | cons e rest ih =>
    rw [names, map_cons, mem_cons, not_or] at h
    rw [put, if_neg (by simpa using Ne.symm h.1), ih h.2]
    rfl

variable {x : String}

theorem find?_eq_some (h : find? table x = some d) : d ∈ table ∧ Named.name d = x :=
  ⟨mem_of_find?_eq_some h, by simpa using List.find?_some h⟩

theorem isSome_find?_iff : (find? table x).isSome = true ↔ x ∈ names table := by
  simp [find?, names]

end Table

namespace Reading

open Source (Expr Stmt Params)

variable {σ V : Type}

@[simp]
theorem VarDraft.name_eq (d : VarDraft V) : Named.name d = d.var.name := rfl

@[simp]
theorem ClassDraft.name_eq (d : ClassDraft V) : Named.name d = d.cls.name := rfl

@[simp]
theorem FuncDraft.name_eq (d : FuncDraft V) : Named.name d = d.func.name := rfl

/-- What a variable can be of: integers, truth values or a class. -/
def IsType (classes : List String) (type : String) : Prop :=
  type = "int" ∨ type = "bool" ∨ type ∈ classes

/-- A variable of a known type; an array has as many items as it says. -/
structure VarDraft.Valid (classes : List String) (d : VarDraft V) : Prop where
  type : IsType classes d.var.type
  size : d.var.size = .nothing ∨
    ∃ items, d.value = .items items ∧ d.var.size = .datum (.int items.length)

/-- A class with distinct fields of known types. -/
structure ClassDraft.Valid (classes : List String) (d : ClassDraft V) : Prop where
  distinct : (Table.names d.fields).Nodup
  fields : ∀ v ∈ d.fields, v.Valid classes

/-- A function whose parameters, variables of the module and own variables have different names. -/
structure FuncDraft.Valid (I : Evaluator σ V) (classes : List String) (vars : List (VarDraft V))
    (d : FuncDraft V) : Prop where
  args_globals : d.func.args.Disjoint (Table.names d.globals)
  args_locals : d.func.args.Disjoint (Table.names d.locals)
  globals_locals : (Table.names d.globals).Disjoint (Table.names d.locals)
  globals : ∀ v ∈ d.globals, v ∈ vars
  locals : ∀ v ∈ d.locals, v.Valid classes ∧ v.value.isMissing I = false
  body : ∃ r body, d.func.body = .block r body ∧ ∀ c ∈ body, Code.IsStatement c

namespace Progress

def names (st : Progress V) : List String :=
  Table.names st.vars ++ Table.names st.classes ++ Table.names st.functions

def declaredNames (st : Progress V) : List String := st.declared.map Prod.fst

/-- What has been read is sound. -/
structure Valid (I : Evaluator σ V) (st : Progress V) : Prop where
  distinct : st.names.Nodup
  declared : st.names ⊆ st.declaredNames
  vars : ∀ v ∈ st.vars, v.Valid (Table.names st.classes)
  classes : ∀ c ∈ st.classes, c.Valid (Table.names st.classes)
  functions : ∀ f ∈ st.functions, f.Valid I (Table.names st.classes) st.vars

end Progress

/-! ## More classes and more variables -/

section Mono

variable {classes more : List String} {vars : List (VarDraft V)}

theorem VarDraft.Valid.mono {d : VarDraft V} (h : d.Valid classes) : d.Valid (classes ++ more) :=
  ⟨h.type.imp_right (Or.imp_right (mem_append_left more)), h.size⟩

theorem ClassDraft.Valid.mono {d : ClassDraft V} (h : d.Valid classes) :
    d.Valid (classes ++ more) :=
  ⟨h.distinct, fun v hv => (h.fields v hv).mono⟩

variable {I : Evaluator σ V} {d : FuncDraft V}

theorem FuncDraft.Valid.mono_classes (h : d.Valid I classes vars) :
    d.Valid I (classes ++ more) vars :=
  { h with locals := fun v hv => (h.locals v hv).imp_left VarDraft.Valid.mono }

theorem FuncDraft.Valid.mono_vars (h : d.Valid I classes vars) (v : VarDraft V) :
    d.Valid I classes (vars ++ [v]) :=
  { h with globals := fun w hw => mem_append_left [v] (h.globals w hw) }

end Mono

/-! ## Declarations -/

namespace Progress

variable {I : Evaluator σ V} {st : Progress V} {name : String} {line : Int}

theorem Valid.empty : Progress.empty.Valid I where
  distinct := nodup_nil
  declared := nil_subset _
  vars := by simp [Progress.empty]
  classes := by simp [Progress.empty]
  functions := by simp [Progress.empty]

abbrev withName (st : Progress V) (name : String) (line : Int) : Progress V :=
  { st with declared := (name, line) :: st.declared }

theorem ensures_declare (st : Progress V) (cx : Context) (name : String) (p : Position) :
    Ensures (st.declare cx name p : Read σ _) fun st' =>
      name ∉ st.declaredNames ∧ st' = st.withName name p.line := by
  unfold declare
  split
  · exact .throw
  · next hnone =>
      refine .pure ⟨?_, rfl⟩
      intro hmem
      obtain ⟨entry, hentry, rfl⟩ := mem_map.1 hmem
      simpa using lookup_eq_none_iff.1 hnone entry hentry

theorem Valid.withName (h : st.Valid I) : (st.withName name line).Valid I :=
  { h with declared := List.Subset.trans h.declared (subset_cons_self _ _) }

theorem Valid.withEnv (h : st.Valid I) (env : Names V) : { st with env }.Valid I :=
  ⟨h.distinct, h.declared, h.vars, h.classes, h.functions⟩

theorem Valid.define (h : st.Valid I) (v : V) : (st.define name v).Valid I := h.withEnv _

theorem Valid.not_mem (h : st.Valid I) (hname : name ∉ st.declaredNames) :
    name ∉ Table.names st.vars ∧ name ∉ Table.names st.classes ∧
      name ∉ Table.names st.functions := by
  have hnames : name ∉ st.names := fun hmem => hname (h.declared hmem)
  simpa [Progress.names] using hnames

theorem Valid.names_of_perm (h : st.Valid I) (hname : name ∉ st.declaredNames) (st' : Progress V)
    (hperm : st'.names.Perm (name :: st.names))
    (hdeclared : st'.declaredNames = name :: st.declaredNames) :
    st'.names.Nodup ∧ st'.names ⊆ st'.declaredNames := by
  refine ⟨hperm.nodup_iff.2 (nodup_cons.2 ⟨fun hmem => hname (h.declared hmem), h.distinct⟩), ?_⟩
  rw [hdeclared]
  exact List.Subset.trans hperm.subset (cons_subset_cons name h.declared)

theorem Valid.putVar (h : st.Valid I) {d : VarDraft V} (hname : d.var.name ∉ st.declaredNames)
    (hd : d.Valid (Table.names st.classes)) :
    { st.withName d.var.name line with vars := st.vars ++ [d] }.Valid I := by
  have hperm := @List.perm_middle _ d.var.name (Table.names st.vars)
    (Table.names st.classes ++ Table.names st.functions)
  obtain ⟨hdistinct, hdeclared⟩ := h.names_of_perm hname
    { st.withName d.var.name line with vars := st.vars ++ [d] }
    (by simpa [Progress.names, Table.names, -perm_middle] using hperm) rfl
  exact ⟨hdistinct, hdeclared, forall_mem_append.2 ⟨h.vars, forall_mem_singleton.2 hd⟩,
    h.classes, fun f hf => (h.functions f hf).mono_vars d⟩

theorem Valid.putClass (h : st.Valid I) {d : ClassDraft V} (hname : d.cls.name ∉ st.declaredNames)
    (hd : d.Valid (Table.names st.classes)) :
    { st.withName d.cls.name line with classes := st.classes ++ [d] }.Valid I := by
  have hperm := @List.perm_middle _ d.cls.name (Table.names st.vars ++ Table.names st.classes)
    (Table.names st.functions)
  obtain ⟨hdistinct, hdeclared⟩ := h.names_of_perm hname
    { st.withName d.cls.name line with classes := st.classes ++ [d] }
    (by simpa [Progress.names, Table.names] using hperm) rfl
  have hclasses : Table.names (st.classes ++ [d]) = Table.names st.classes ++ [d.cls.name] :=
    map_append
  refine ⟨hdistinct, hdeclared, ?_, ?_, ?_⟩ <;> dsimp only <;> rw [hclasses]
  · exact fun v hv => (h.vars v hv).mono
  · exact forall_mem_append.2
      ⟨fun c hc => (h.classes c hc).mono, forall_mem_singleton.2 hd.mono⟩
  · exact fun f hf => (h.functions f hf).mono_classes

theorem Valid.putFunc (h : st.Valid I) {d : FuncDraft V} (hname : d.func.name ∉ st.declaredNames)
    (hd : d.Valid I (Table.names st.classes) st.vars) :
    { st.withName d.func.name line with functions := st.functions ++ [d] }.Valid I := by
  have hperm := @List.perm_middle _ d.func.name
    (Table.names st.vars ++ Table.names st.classes ++ Table.names st.functions) []
  obtain ⟨hdistinct, hdeclared⟩ := h.names_of_perm hname
    { st.withName d.func.name line with functions := st.functions ++ [d] }
    (by simpa [Progress.names, Table.names] using hperm) rfl
  exact ⟨hdistinct, hdeclared, h.vars, h.classes,
    forall_mem_append.2 ⟨h.functions, forall_mem_singleton.2 hd⟩⟩

theorem isType_of_isType {type : String} (h : st.isType type = true) :
    IsType (Table.names st.classes) type := by
  simp only [Progress.isType, Bool.or_eq_true, beq_iff_eq] at h
  rcases h with (h | h) | h
  · exact .inl h
  · exact .inr (.inl h)
  · exact .inr (.inr (Table.isSome_find?_iff.1 h))

end Progress

/-! ## Variables -/

variable (I : Evaluator σ V) (lines : List String)

theorem ensures_variableType (cx : Context) (p : Position) (type : Expr) (value : Option Expr)
    (init : Initial V) :
    Ensures (variableType I cx p type value init) fun r => r.2.1 = .nothing ∨
      ∃ items, r.2.2 = .items items ∧ r.2.1 = .datum (.int items.length) := by
  unfold variableType
  split
  · split
    · split
      · refine .ite (fun _ => .throw_bind) fun _ => ?_
        exact .bind (.trivial _) fun items _ => .pure (.inr ⟨items, rfl, rfl⟩)
      · exact .throw
    · exact .throw
    · exact .throw
  · exact .pure (.inl rfl)
  · exact .throw

/-- A declaration of a variable declares its name and adds the variable. -/
def Declares (st : Progress V) (d : VarDraft V) (st' : Progress V) : Prop :=
  d.var.name ∉ st.declaredNames ∧ d.Valid (Table.names st.classes) ∧
    ∃ line, st' = { st.withName d.var.name line with vars := Table.put st.vars d }

theorem ensures_readDraft (st : Progress V) (p : Position) (name : String) (type : Expr)
    (value : Option Expr) :
    Ensures (readDraft I lines st p name type value) fun d =>
      d.var.name = name ∧ d.Valid (Table.names st.classes) := by
  refine .bind (.trivial _) fun init _ => ?_
  refine .bind (ensures_variableType I _ p type value init) fun r hr => ?_
  obtain ⟨typeName, size, init⟩ := r
  dsimp only
  split
  · next htype => exact .pure ⟨rfl, Progress.isType_of_isType htype, hr⟩
  · exact .throw

theorem ensures_readVar (st : Progress V) (p : Position) (target type : Expr)
    (value : Option Expr) :
    Ensures (readVar I lines st p target type value) fun r => Declares st r.2 r.1 := by
  refine .bind (.trivial _) fun name _ => .bind (st.ensures_declare _ name p) fun st' hst' => ?_
  obtain ⟨hname, rfl⟩ := hst'
  refine .bind (ensures_readDraft I lines _ p name type value) fun d hd => .pure ?_
  obtain ⟨rfl, hvalid⟩ := hd
  exact ⟨hname, hvalid, p.line, rfl⟩

/-! ## Functions -/

theorem ensures_readGlobals (cx : Context) (vars : List (VarDraft V)) (args : List String)
    (p : Position) (names : List String) :
    Ensures (readGlobals cx vars args p names : Read σ _) fun gs =>
    ∀ g ∈ gs, g ∈ vars ∧ g.var.name ∉ args := by
  induction names with
  | nil => exact .pure (by simp)
  | cons name rest ih =>
    unfold readGlobals
    refine .ite (fun _ => .throw_bind) fun hargs => ?_
    dsimp only
    split
    · next v hv =>
        refine .bind ih fun gs hgs => .pure ?_
        obtain ⟨hmem, hname⟩ := Table.find?_eq_some hv
        refine forall_mem_cons.2 ⟨⟨hmem, ?_⟩, hgs⟩
        rw [← VarDraft.name_eq, hname]
        simpa using hargs
    · exact .throw

/-- What has been read of the body of a function is sound. -/
structure BodyProgress.Valid (st : Progress V) (args : List String) (b : BodyProgress V) :
    Prop where
  body : ∀ c ∈ b.body, Opens c
  globals : ∀ g ∈ b.globals, g ∈ st.vars ∧ g.var.name ∉ args
  locals : ∀ v ∈ b.locals, v.Valid (Table.names st.classes) ∧ v.value.isMissing I = false ∧
    v.var.name ∉ args ∧ v.var.name ∉ Table.names b.globals

variable {I} {b : BodyProgress V} {st st' : Progress V}

theorem ensures_readBody (st : Progress V) (args : List String) (hb : b.Valid I st args)
    (stmts : List Stmt) :
    Ensures (readBody I lines st args b stmts) fun b' => b'.Valid I st args := by
  induction stmts generalizing b with
  | nil => exact .pure hb
  | cons s rest ih =>
    unfold readBody
    dsimp only
    split
    · next p names =>
        refine .ite (fun _ => .throw_bind) fun _ => .ite (fun _ => .throw_bind) fun hlocals => ?_
        refine .bind (ensures_readGlobals _ st.vars args p names) fun gs hgs => ih ?_
        -- Variables of the module come before own ones, so there is none of these yet.
        have hempty : b.locals = [] := by simpa using hlocals
        refine ⟨hb.body, forall_mem_append.2 ⟨hb.globals, hgs⟩, ?_⟩
        simp [hempty]
    · next p target type value simple =>
        refine .ite (fun _ => .throw_bind) fun _ => ?_
        refine .bind (.trivial _) fun name _ => ?_
        refine .bind (ensures_readDraft I lines st p name type value) fun draft hdraft => ?_
        obtain ⟨rfl, hvalid⟩ := hdraft
        refine .ite (fun _ => .throw_bind) fun hargs => .ite (fun _ => .throw_bind) fun hglobal =>
          ?_
        refine .ite (fun _ => .throw_bind) fun hvalue => ?_
        refine ih ⟨hb.body, hb.globals, forall_mem_append.2 ⟨hb.locals, ?_⟩⟩
        exact forall_mem_singleton.2 ⟨hvalid, by simpa using hvalue, by simpa using hargs,
          fun hmem => hglobal (Table.isSome_find?_iff.2 hmem)⟩
    · exact .bind (ensures_lowerStmt I lines st.env [] s) fun c hc =>
        ih ⟨forall_mem_append.2 ⟨hb.body, forall_mem_singleton.2 hc⟩, hb.globals, hb.locals⟩

theorem BodyProgress.Valid.funcDraft {args : List String}
    (hb : b.Valid I st args) (r : Option Origin) (name : String) :
    FuncDraft.Valid I (Table.names st.classes) st.vars
      ⟨⟨r, name, args, .mkBlock r b.body, [], []⟩, b.globals, b.locals⟩ where
  args_globals := by
    intro x hx hmem
    obtain ⟨g, hg, rfl⟩ := mem_map.1 hmem
    exact (hb.globals g hg).2 hx
  args_locals := by
    intro x hx hmem
    obtain ⟨v, hv, rfl⟩ := mem_map.1 hmem
    exact (hb.locals v hv).2.2.1 hx
  globals_locals := by
    intro x hx hmem
    obtain ⟨v, hv, rfl⟩ := mem_map.1 hmem
    exact (hb.locals v hv).2.2.2 hx
  globals g hg := (hb.globals g hg).1
  locals v hv := ⟨(hb.locals v hv).1, (hb.locals v hv).2.1⟩
  body := ⟨r, _, rfl, isStatement_flattenAll hb.body⟩

theorem ensures_readFunction (h : st.Valid I) (s : Stmt) (p : Position) (name : String)
    (params : Params) (body : List Stmt) (decorators : List Expr) :
    Ensures (readFunction I lines st s p name params body decorators) fun st' =>
      st'.Valid I ∧ st'.vars = st.vars ∧
        ∃ d : FuncDraft V, d.func.name = name ∧ st'.functions = st.functions ++ [d] := by
  unfold readFunction
  refine .bind (st.ensures_declare _ name p) fun st' hst' => ?_
  obtain ⟨hname, rfl⟩ := hst'
  dsimp only
  split
  · exact .throw_bind
  · refine .bind (.trivial _) fun _ _ => ?_
    have hstart : BodyProgress.Valid I (st.withName name p.line)
        ((params.positionalOnly ++ params.positional).map Source.Param.name) ⟨[], [], []⟩ :=
      ⟨by simp, by simp, by simp⟩
    refine .bind (ensures_readBody lines _ _ hstart body) fun parts hparts => ?_
    refine .bind (.trivial _) fun value _ => .pure ?_
    have hdraft := hparts.funcDraft (some ((I.context lines st.env).origin (some p))) name
    rw [Table.put_eq_append (h.not_mem hname).2.2]
    exact ⟨(h.putFunc hname hdraft).define value, rfl, _, rfl, rfl⟩

/-! ## Imports -/

/-- Imports only define names. -/
theorem ensures_readImports (s : Stmt) (p : Position)
    (require : Context → Source.Alias → Read σ Unit) (st : Progress V) (names : List Source.Alias) :
    Ensures (readImports I lines s p require st names) fun st' => ∃ env, st' = { st with env } := by
  induction names generalizing st with
  | nil => exact .pure ⟨st.env, rfl⟩
  | cons a rest ih =>
    unfold readImports
    refine .bind (.trivial _) fun _ _ => .bind (.trivial _) fun value _ => ?_
    exact ih _

/-! ## Classes -/

/-- Only a declaration of a variable is read as a variable. -/
theorem ensures_readStmt_var (st : Progress V) (s : Stmt)
    {P : VarDraft V → Progress V → Prop} (h : ∀ p target type value simple,
      s = .declare p target type value simple →
        Ensures (readVar I lines st p target type value) fun r => P r.2 r.1) :
    Ensures (readStmt I lines st s) fun r => ∀ d, r.2 = some d → P d r.1 := by
  have hnone (st' : Progress V) :
      Ensures (pure (st', none) : Read σ (Progress V × Option (VarDraft V)))
      fun r => ∀ d, r.2 = some d → P d r.1 := .pure nofun
  unfold readStmt
  split
  · next p target type value simple =>
      refine .bind (h p target type value simple rfl) fun r hr => .pure ?_
      intro d hd
      cases hd
      exact hr
  · dsimp only
    split
    · exact .bind (.trivial _) fun _ _ => .bind (.trivial _) fun _ _ => hnone _
    · exact .throw
    · exact .throw
  · exact .bind (.trivial _) fun _ _ => hnone _
  · exact .bind (.trivial _) fun _ _ => hnone _
  · exact .bind (.trivial _) fun _ _ => hnone _
  · refine .bind (.trivial _) fun _ _ => ?_
    dsimp only
    split
    · exact .throw_bind
    · exact .bind (.trivial _) fun _ _ => .bind (.trivial _) fun _ _ =>
        .bind (.trivial _) fun _ _ =>
        .bind (.trivial _) fun _ _ => .bind (.trivial _) fun _ _ => hnone _
  all_goals exact .throw

theorem ensures_readStmt_declare (st : Progress V) (s : Stmt) :
    Ensures (readStmt I lines st s) fun r =>
    (∃ p target type value simple, s = .declare p target type value simple) →
    ∃ d, r.2 = some d := by
  by_cases hs : ∃ p target type value simple, s = .declare p target type value simple
  · obtain ⟨p, target, type, value, simple, rfl⟩ := hs
    unfold readStmt
    exact .bind (.trivial _) fun r _ => .pure fun _ => ⟨r.2, rfl⟩
  · exact fun _ _ _ _ h => absurd h hs

theorem ensures_readStmt_some (st : Progress V) (s : Stmt) :
    Ensures (readStmt I lines st s) fun r => ∀ d, r.2 = some d → Declares st d r.1 :=
  ensures_readStmt_var lines st s fun p target type value _ _ =>
    ensures_readVar I lines st p target type value

/-- The fields of a class are distinct variables of known types; nothing but variables is added. -/
theorem ensures_readFields (st : Progress V) (body : List Stmt) :
    Ensures (readFields I lines st body) fun r => r.1.classes = st.classes ∧
      r.1.functions = st.functions ∧ (∀ v ∈ r.2, v.Valid (Table.names st.classes)) ∧
      (Table.names r.2).Nodup ∧ ∀ x ∈ Table.names r.2, x ∉ st.declaredNames := by
  induction body generalizing st with
  | nil =>
    unfold readFields
    exact .pure ⟨rfl, rfl, by simp, by simp [Table.names], by simp [Table.names]⟩
  | cons s rest ih =>
    unfold readFields
    refine .bind (ensures_readStmt_some lines st s) fun r hr => ?_
    obtain ⟨st₁, var⟩ := r
    cases var with
    | none => exact .throw
    | some v =>
      obtain ⟨hname, hvalid, line, rfl⟩ := hr v rfl
      refine .bind (ih _) fun r' hr' => .pure ?_
      obtain ⟨hclasses, hfunctions, hfields, hdistinct, hfresh⟩ := hr'
      refine ⟨hclasses, hfunctions, forall_mem_cons.2 ⟨hvalid, hfields⟩, ?_, ?_⟩
      · exact nodup_cons.2 ⟨fun hmem => hfresh _ hmem mem_cons_self, hdistinct⟩
      · exact forall_mem_cons.2
          ⟨hname, fun x hx hmem => hfresh x hx (mem_cons_of_mem _ hmem)⟩

/-! ## Modules -/

theorem Progress.Valid.declares (h : st.Valid I) {d : VarDraft V}
    (hd : Declares st d st') : st'.Valid I ∧ st'.vars = st.vars ++ [d] := by
  obtain ⟨hname, hvalid, line, rfl⟩ := hd
  rw [Table.put_eq_append (h.not_mem hname).1]
  exact ⟨h.putVar hname hvalid, rfl⟩

/-- Whether a statement defines a function of a name. -/
def definesFunction (name : String) : Stmt → Bool
  | .function _ other .. => other == name
  | _ => false

/-- What has been read has more functions, which some statements define. -/
def AddsFunctions (st : Progress V) (stmts : List Stmt) (st' : Progress V) : Prop :=
  ∃ more, st'.functions = st.functions ++ more ∧
    ∀ d ∈ more, ∃ s ∈ stmts, definesFunction d.func.name s = true

theorem addsFunctions_of_eq (stmts : List Stmt)
    (h : st'.functions = st.functions) : AddsFunctions st stmts st' :=
  ⟨[], by rw [h, append_nil], by simp⟩

/-- What is read stays sound with every declaration. -/
theorem ensures_readStmt (h : st.Valid I) (s : Stmt) :
    Ensures (readStmt I lines st s) fun r =>
      r.1.Valid I ∧ r.1.vars = st.vars ++ r.2.toList ∧ AddsFunctions st [s] r.1 := by
  -- Most declarations leave variables and functions as they are.
  have hsame {st' : Progress V} (hvalid : st'.Valid I) (hvars : st'.vars = st.vars)
      (hfunctions : st'.functions = st.functions) :
      st'.Valid I ∧ st'.vars = st.vars ++ [] ∧ AddsFunctions st [s] st' :=
    ⟨hvalid, by rw [hvars, append_nil], addsFunctions_of_eq [s] hfunctions⟩
  unfold readStmt
  split
  · next p target type value simple =>
      refine .bind (ensures_readVar I lines st p target type value) fun r hr => .pure ?_
      obtain ⟨hvalid, hvars⟩ := h.declares hr
      obtain ⟨-, -, line, hst'⟩ := hr
      exact ⟨hvalid, hvars, addsFunctions_of_eq _ (by rw [hst'])⟩
  · next p targets value =>
      dsimp only
      split
      · next name _ =>
          refine .bind (st.ensures_declare _ name p) fun st' hst' => ?_
          obtain ⟨-, rfl⟩ := hst'
          exact .bind (.trivial _) fun v _ => .pure (hsame (h.withName.define v) rfl rfl)
      · exact .throw
      · exact .throw
  · next p name params body decorators returns =>
      refine .bind (ensures_readFunction lines h _ p name params body decorators)
        fun st' hst' => .pure ?_
      obtain ⟨hvalid, hvars, d, rfl, hfunctions⟩ := hst'
      exact ⟨hvalid, by rw [hvars, Option.toList_none, append_nil], [d], hfunctions,
        by simp [definesFunction]⟩
  · refine .bind (ensures_readImports lines _ _ _ st _) fun st' hst' => .pure ?_
    obtain ⟨env, rfl⟩ := hst'
    exact hsame (h.withEnv env) rfl rfl
  · refine .bind (ensures_readImports lines _ _ _ st _) fun st' hst' => .pure ?_
    obtain ⟨env, rfl⟩ := hst'
    exact hsame (h.withEnv env) rfl rfl
  · next p name bases keywords body decorators =>
      refine .bind (st.ensures_declare _ name p) fun st' hst' => ?_
      obtain ⟨hname, rfl⟩ := hst'
      dsimp only
      split
      · exact .throw_bind
      · refine .bind (.trivial _) fun _ _ => .bind (.trivial _) fun parents _ => ?_
        refine .bind (ensures_readFields lines _ body) fun r hr => ?_
        obtain ⟨⟨env, declared, vars, classes, functions⟩, fields⟩ := r
        obtain ⟨rfl, rfl, hfields, hdistinct, -⟩ := hr
        refine .bind (.trivial _) fun defined _ => ?_
        refine .bind (.trivial _) fun value _ => .pure (hsame ?_ rfl rfl)
        dsimp only
        rw [Table.put_eq_append (h.not_mem hname).2.1]
        have hdraft : ClassDraft.Valid (Table.names st.classes)
            ⟨⟨some ((I.context lines st.env).origin (some p)), name, [], parents⟩, fields⟩ :=
          ⟨hdistinct, hfields⟩
        exact (h.putClass hname hdraft).withEnv _
  all_goals exact .throw

/-- Variables of a module have values. -/
def Progress.Complete (I : Evaluator σ V) (st : Progress V) : Prop :=
  st.Valid I ∧ ∀ d ∈ st.vars, d.value.isMissing I = false

/-- What has been read of a module is sound and complete. -/
theorem ensures_readAll (h : st.Complete I) (body : List Stmt) :
    Ensures (readAll I lines st body) (Progress.Complete I) := by
  induction body generalizing st with
  | nil => exact .pure h
  | cons s rest ih =>
    unfold readAll
    refine .bind (ensures_readStmt lines h.1 s) fun r hr => ?_
    obtain ⟨st', draft⟩ := r
    obtain ⟨hvalid, hvars, -⟩ := hr
    dsimp only at hvars ⊢
    cases draft with
    | none =>
      refine ih ⟨hvalid, ?_⟩
      rw [hvars]
      exact forall_mem_append.2 ⟨h.2, by simp⟩
    | some d =>
      refine .ite (fun _ => .throw_bind) fun hmissing => ih ⟨hvalid, ?_⟩
      rw [hvars]
      exact forall_mem_append.2 ⟨h.2, forall_mem_singleton.2 (by simpa using hmissing)⟩

end Reading

end DataDiagram
