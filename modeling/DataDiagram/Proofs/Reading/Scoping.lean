import DataDiagram.Proofs.Reading.Alike
import DataDiagram.Proofs.Reading.WellFormed
import Mathlib.Data.List.TakeWhile
/-!
# Hidden static names

The parameters and variables of a function hide static names.  A function is read as if the hidden
names were not there, unless its body makes use of one: as a number, or in what is evaluated ahead
of the program.
-/

namespace DataDiagram

open List

namespace Reading

open Source (Expr Stmt Params)

variable {σ V : Type} {I : Evaluator σ V} {lines : List String} {m n : σ}

/-! ## Functions that are read -/

theorem stateless_declare (st : Progress V) (cx : Context) (name : String) (p : Position) :
    Stateless (st.declare cx name p : Read σ _) := by
  unfold Progress.declare
  split
  · exact .throw _
  · exact .pure _

theorem stateless_requirePlain (cx : Context) (params : Params) :
    Stateless (requirePlain cx params : Read σ Unit) := by
  unfold requirePlain
  split
  · exact .throw _
  · exact .throw _
  · exact .throw _
  · exact .throw _
  · exact .pure _

/-- The names of the parameters that a function can have. -/
def paramNames (params : Params) : List String :=
  (params.positionalOnly ++ params.positional).map Source.Param.name

variable {p : Position} {st st' : Progress V} {s : Stmt} {body : List Stmt} {decorators : List Expr}
  {name : String} {params : Params} {returns : Option Expr}

theorem readFunction_eq_ok (hst : st.Valid I)
    (h : (readFunction I lines st s p name params body decorators).run m = (.ok st', n)) :
    ∃ parts k,
      (readBody I lines (st.withName name p.line) (paramNames params) ⟨[], [], []⟩ body).run m =
        (.ok parts, k) ∧
      st'.functions = st.functions ++ [⟨⟨some ⟨Context.fileName, lines, some p⟩, name,
        paramNames params, .mkBlock (some ⟨Context.fileName, lines, some p⟩) parts.body, [], []⟩,
        parts.globals, parts.locals⟩] := by
  obtain ⟨st₁, m₁, hdeclare, h₁⟩ := exists_of_run_bind_eq_ok h
  obtain rfl := (stateless_declare st _ name p).state_eq hdeclare
  obtain ⟨hname, rfl⟩ := st.ensures_declare _ name p _ _ _ hdeclare
  dsimp only at h₁
  split at h₁
  · cases h₁
  · obtain ⟨_, m₂, hplain, h₂⟩ := exists_of_run_bind_eq_ok h₁
    obtain rfl := (stateless_requirePlain _ params).state_eq hplain
    obtain ⟨parts, k, hparts, h₃⟩ := exists_of_run_bind_eq_ok h₂
    obtain ⟨value, m₄, -, h₄⟩ := exists_of_run_bind_eq_ok h₃
    cases h₄
    exact ⟨parts, k, hparts, Table.put_eq_append (hst.not_mem hname).2.2⟩

theorem readAll_cons_eq_ok {rest : List Stmt}
    (h : (readAll I lines st (s :: rest)).run m = (.ok st', n)) :
    ∃ r k, (readStmt I lines st s).run m = (.ok r, k) ∧
      (readAll I lines r.1 rest).run k = (.ok st', n) := by
  obtain ⟨⟨st₁, draft⟩, k, hs, hrest⟩ := exists_of_run_bind_eq_ok h
  refine ⟨(st₁, draft), k, hs, ?_⟩
  cases draft with
  | none => exact hrest
  | some d =>
    dsimp only at hrest
    split at hrest
    · cases hrest
    · exact hrest

theorem readAll_append (st : Progress V) (before after : List Stmt) :
    readAll I lines st (before ++ after) =
      readAll I lines st before >>= fun st' => readAll I lines st' after := by
  induction before generalizing st with
  | nil => rfl
  | cons s rest ih =>
    rw [cons_append, readAll, readAll, bind_assoc]
    refine bind_congr fun ⟨st', draft⟩ => ?_
    cases draft with
    | none => exact ih st'
    | some d =>
      dsimp only
      split
      · rfl
      · exact ih st'

theorem addsFunctions_readAll (hst : st.Valid I) (stmts : List Stmt) :
    Ensures (readAll I lines st stmts) (AddsFunctions st stmts) := by
  induction stmts generalizing st with
  | nil => exact .pure (addsFunctions_of_eq [] rfl)
  | cons s rest ih =>
    intro m st' n h
    obtain ⟨⟨st₁, draft⟩, k, hs, hrest⟩ := readAll_cons_eq_ok h
    obtain ⟨hst₁, -, first, hfirst, hdefines⟩ := ensures_readStmt lines hst s _ _ _ hs
    obtain ⟨more, hmore, hdefines'⟩ := ih hst₁ _ _ _ hrest
    refine ⟨first ++ more, by rw [hmore, hfirst, append_assoc], ?_⟩
    refine forall_mem_append.2 ⟨fun d hd => ?_, fun d hd => ?_⟩
    · obtain ⟨t, ht, hdef⟩ := hdefines d hd
      exact ⟨t, mem_cons.2 (.inl (mem_singleton.1 ht)), hdef⟩
    · obtain ⟨t, ht, hdef⟩ := hdefines' d hd
      exact ⟨t, mem_cons_of_mem s ht, hdef⟩

/-- What is read of a function when its turn comes is part of what is read in the end. -/
theorem readAll_function {before after : List Stmt} (h : (readAll I lines .empty
      (before ++ .function p name params body decorators returns :: after)).run m = (.ok st, n))
    {d : FuncDraft V} (hd : d ∈ st.functions) (hname : d.func.name = name) :
    ∃ st₁ m₁ parts k, (readAll I lines .empty before).run m = (.ok st₁, m₁) ∧
      (readBody I lines (st₁.withName name p.line) (paramNames params) ⟨[], [], []⟩ body).run m₁ =
        (.ok parts, k) ∧
      d.func.body = .mkBlock (some ⟨Context.fileName, lines, some p⟩) parts.body := by
  have hst : st.Complete I := complete_readAll h
  rw [readAll_append] at h
  obtain ⟨st₁, m₁, hbefore, h₁⟩ := exists_of_run_bind_eq_ok h
  have hst₁ : st₁.Complete I := complete_readAll hbefore
  obtain ⟨⟨st₂, draft⟩, m₂, hfunction, hafter⟩ := readAll_cons_eq_ok h₁
  have hst₂ := (ensures_readStmt lines hst₁.1 _ _ _ _ hfunction).1
  rw [readStmt] at hfunction
  obtain ⟨st₃, m₃, hread, hpure⟩ := exists_of_run_bind_eq_ok hfunction
  cases hpure
  obtain ⟨parts, k, hparts, hfunctions⟩ := readFunction_eq_ok hst₁.1 hread
  obtain ⟨more, hmore, -⟩ := addsFunctions_readAll hst₂ after _ _ _ hafter
  -- Names are declared once, so the function is the one that has been added here.
  have hdistinct : (Table.names st.functions).Nodup := hst.1.distinct.of_append_right
  have heq := inj_on_of_nodup_map hdistinct hd
    (hmore ▸ hfunctions ▸ mem_append_left more (mem_append_right _ mem_cons_self)) hname
  rw [heq]
  exact ⟨st₁, m₁, parts, k, hbefore, hparts, rfl⟩

/-! ## Functions without hidden names -/

/-- The environment without some names. -/
def without (env : Names V) (hidden : List String) : Names V :=
  env.filter fun b => !hidden.contains b.1

theorem lookup_without (env : Names V) (hidden : List String) (id : String) :
    (without env hidden).lookup id = if id ∈ hidden then none else env.lookup id := by
  induction env with
  | nil => simp [without]
  | cons b rest ih =>
    obtain ⟨key, v⟩ := b
    by_cases hkey : key ∈ hidden
    · have hrest : without ((key, v) :: rest) hidden = without rest hidden := by
        simp [without, hkey]
      rw [hrest, ih]
      split
      · rfl
      · next hid => rw [lookup_cons, beq_false_of_ne fun (heq : id = key) => hid (heq ▸ hkey)]
    · have hrest : without ((key, v) :: rest) hidden = (key, v) :: without rest hidden := by
        simp [without, hkey]
      rw [hrest, lookup_cons, lookup_cons, ih]
      split
      · next heq => rw [if_neg fun hid => hkey (beq_iff_eq.1 heq ▸ hid)]
      · rfl

/-- A function among the statements of a text, with what has been read before it. -/
structure Site (σ V : Type) where
  before : Progress V
  state : σ
  pos : Position
  args : List String
  body : List Stmt

section

variable (I lines)

/-- The first function of a name among some statements. -/
def siteOf (stmts : List Stmt) (name : String) : Option (Site σ V) :=
  let before := stmts.takeWhile (!definesFunction name ·)
  match stmts.dropWhile (!definesFunction name ·), (readAll I lines .empty before).run I.start with
  | .function p _ params body _ _ :: _, (.ok st, m) => some ⟨st, m, p, paramNames params, body⟩
  | _, _ => none

namespace Site

/-- The body, read without some of the static names. -/
def block (s : Site σ V) (hidden : List String) : Except ReadError Code :=
  let st := { s.before with env := without s.before.env hidden }
  ((readBody I lines st s.args ⟨[], [], []⟩ s.body).run s.state).1.map fun parts =>
    .mkBlock (some ⟨Context.fileName, lines, some s.pos⟩) parts.body

/-- No hidden name that the body uses is a static number, and the tests, the values that loops go
through and the initial values in it are the same without the hidden names. -/
structure Clear (s : Site σ V) (hidden : List String) : Prop where
  numbers : ∀ id ∈ hidden, id ∈ s.body.flatMap runNames →
    (s.before.env.lookup id).bind I.constant? = none
  unaffected : ∃ R, R s.state s.state ∧
    Unaffected I R s.before.env (without s.before.env hidden) (s.body.flatMap askedBy)

end Site

end

namespace Site

variable {s : Site σ V} {hidden : List String}

theorem Clear.common (h : s.Clear I hidden) : ∃ R, R s.state s.state ∧
    Common I R s.before.env (without s.before.env hidden) (s.body.flatMap runNames)
      (s.body.flatMap askedBy) := by
  obtain ⟨R, hstate, hasked⟩ := h.unaffected
  refine ⟨R, hstate, fun id hid => ?_, hasked⟩
  rw [lookup_without]
  split
  · next hmem => exact (h.numbers id hmem hid).symm
  · rfl

theorem block_nil (s : Site σ V) : s.block I lines [] =
    ((readBody I lines s.before s.args ⟨[], [], []⟩ s.body).run s.state).1.map fun parts =>
      .mkBlock (some ⟨Context.fileName, lines, some s.pos⟩) parts.body := by
  have hsame : without s.before.env [] = s.before.env := by simp [without]
  rw [block, hsame]

theorem block_eq (h : s.Clear I hidden) : s.block I lines hidden = s.block I lines [] := by
  obtain ⟨R, hstate, hcommon⟩ := h.common
  have hrelated : Related R (readBody I lines s.before s.args ⟨[], [], []⟩ s.body)
      (readBody I lines { s.before with env := without s.before.env hidden } s.args
        ⟨[], [], []⟩ s.body) := by
    refine related_readBody s.args ?_ ?_ s.body _ hcommon
    · rfl
    · rfl
  obtain ⟨r, k, k', hrun, hrun', -⟩ := hrelated s.state s.state hstate
  rw [block_nil, block, hrun, hrun']

end Site

/-- Every function that is read stands among the statements, and its body is what is read there. -/
theorem exists_site {stmts : List Stmt} {md : Module} (h : readModule I lines stmts = .ok md)
    {f : Func} (hf : f ∈ md.functions) :
    ∃ s, siteOf I lines stmts f.name = some s ∧ s.block I lines [] = .ok f.body := by
  obtain ⟨st, m, hst, rfl⟩ := readModule_eq_ok h
  obtain ⟨d, hd, rfl⟩ := mem_map.1 hf
  have hsplit := stmts.takeWhile_append_dropWhile (p := (!definesFunction d.func.name ·))
  cases hdrop : stmts.dropWhile (!definesFunction d.func.name ·) with
  | nil =>
    -- Nothing among the statements defines the function.
    obtain ⟨more, hmore, hdefines⟩ := addsFunctions_readAll .empty stmts _ _ _ hst
    obtain ⟨t, ht, hdefined⟩ := hdefines d (by simpa [hmore, Progress.empty] using hd)
    have hnone := dropWhile_eq_nil_iff.1 hdrop t ht
    simp [hdefined] at hnone
  | cons t after =>
    have ht : definesFunction d.func.name t = true := by
      have hhead := List.head?_dropWhile_not (!definesFunction d.func.name ·) stmts
      simpa [hdrop] using hhead
    cases t with
    | function p name params body decorators returns =>
      obtain rfl : name = d.func.name := by simpa [definesFunction] using ht
      rw [hdrop] at hsplit
      rw [← hsplit] at hst
      obtain ⟨st₁, m₁, parts, k, hbefore, hparts, hbody⟩ := readAll_function hst hd rfl
      refine ⟨⟨st₁, m₁, p, paramNames params, body⟩, ?_, ?_⟩
      · simp [siteOf, FuncDraft.finish, hdrop, hbefore]
      · -- That the function's own name has been declared makes no difference to its body.
        have hsame : Related Eq
            (readBody I lines (st₁.withName d.func.name p.line) (paramNames params)
              ⟨[], [], []⟩ body)
            (readBody I lines st₁ (paramNames params) ⟨[], [], []⟩ body) := by
          refine related_readBody _ ?_ ?_ body _ (.refl _ _)
          · rfl
          · rfl
        obtain ⟨r, l, l', hrun, hrun', -⟩ := hsame m₁ m₁ rfl
        rw [hparts] at hrun
        cases hrun
        rw [Site.block_nil, hrun']
        exact congrArg Except.ok hbody.symm
    | _ => cases ht

end Reading

/-- The names that hide static names in a function. -/
def Func.ownNames (f : Func) : List String := f.args ++ Table.names f.locals

/-- However parts of it are evaluated, a function is read as if the names that it hides were not
there, unless its body makes use of them. -/
theorem Reading.body_without_own_names {σ V : Type} {I : Evaluator σ V} {lines : List String}
    {stmts : List Source.Stmt} {m : Module} (h : readModule I lines stmts = .ok m) {f : Func}
    (hf : f ∈ m.functions) (hclear : ∀ s ∈ siteOf I lines stmts f.name, s.Clear I f.ownNames) :
    ∃ s, siteOf I lines stmts f.name = some s ∧ s.block I lines [] = .ok f.body ∧
      s.block I lines f.ownNames = .ok f.body := by
  obtain ⟨s, hs, hblock⟩ := exists_site h hf
  exact ⟨s, hs, hblock, (Site.block_eq (hclear s hs)).trans hblock⟩

section Sample

open Reading

/-- A function whose parameter hides a tuple. -/
def hidingText : String :=
  "n = 2\nt = 1, 2\ndef f(t):\n k: int = 1\n if 1:\n  k = t + n\n return k\n"

/-- Machines that differ in names of scopes only, which no constant looks up. -/
def SameHeap (m m' : Static.Machine) : Prop := m'.heap = m.heap ∧ m'.nextUnit = m.nextUnit

theorem run_evaluate_constant (env : Names Static.Value) (q : Option Position) (d : Datum)
    (m : Static.Machine) : (Static.evaluate env (.constant q d)).run m =
      (((Static.Eval.constant m.nextUnit d).run m.heap).1,
        { m with
          scopes := m.scopes.push env
          nextUnit := m.nextUnit + 1
          heap := ((Static.Eval.constant m.nextUnit d).run m.heap).2 }) := rfl

theorem steps_attempt {α : Type} (x : Static.Eval α) :
    Steps SameHeap (Static.attempt (Static.Run.ofEval x))
    (Static.attempt (Static.Run.ofEval x)) := by
  rintro m m' ⟨hheap, hunit⟩
  have hrun (m : Static.Machine) : (Static.attempt (Static.Run.ofEval x)).run m =
      ((x.run m.heap).1.mapError Static.failure, { m with heap := (x.run m.heap).2 }) := rfl
  refine ⟨_, _, { m' with heap := (x.run m.heap).2 }, hrun m, ?_, rfl, hunit⟩
  rw [hrun, hheap]

theorem steps_outcome {R : Static.Machine → Static.Machine → Prop}
    (usable : Except Static.Unusable Unit) {x x' : Static.Run Static.Value} (hx : Related R x x') :
    Steps R (Static.outcome usable x) (Static.outcome usable x') := by
  intro m m' h
  cases usable with
  | error u => exact ⟨.left u.failure, m, m', rfl, rfl, h⟩
  | ok _ =>
    obtain ⟨r, n, n', hrun, hrun', hn⟩ := hx m m' h
    have hend {y : Static.Run Static.Value} {l k : Static.Machine} (hy : y.run l = (r, k)) :
        (Static.outcome (.ok ()) y).run l = (Static.ending r, k) := by
      have hrun : (Static.outcome (.ok ()) y).run l = (Static.ending (y.run l).1, (y.run l).2) :=
        rfl
      rw [hrun, hy]
    exact ⟨_, n, n', hend hrun, hend hrun', hn⟩

theorem sameWalk_ofList {m m' : Static.Machine} (h : SameHeap m m') (vs : List Static.Value) :
    SameWalk SameHeap (.ofList m vs) (.ofList m' vs) := by
  induction vs generalizing m m' with
  | nil => exact .done h
  | cons v vs ih => exact .next h fun t t' ht => ih ht

/-- Constants are evaluated to the same in all environments. -/
theorem unaffected_constants {env env' : Names Static.Value} {asked : List Source.Expr}
    (h : ∀ e ∈ asked, ∃ q d, e = .constant q d) :
    Unaffected Static.evaluator SameHeap env env' asked where
  evaluate e he vars := by
    obtain ⟨q, d, rfl⟩ := h e he
    have hrelated : Related SameHeap (Static.evaluate env (.constant q d))
        (Static.evaluate env' (.constant q d)) := by
      rintro m m' ⟨hheap, hunit⟩
      have hrun' := run_evaluate_constant env' q d m'
      rw [hheap, hunit] at hrun'
      exact ⟨_, _, _, run_evaluate_constant env q d m, hrun', rfl, rfl⟩
    exact steps_outcome (Static.checkExpr (.constant q d)) hrelated
  truth v := steps_attempt _
  walk v m m' hm := by
    obtain ⟨hheap, hunit⟩ := hm
    change SameWalk SameHeap (Static.walk v m) (Static.walk v m')
    unfold Static.walk
    rw [Static.Run.run_ofEval, Static.Run.run_ofEval, hheap]
    rcases (Static.Eval.itemList v).run m.heap with ⟨e | items, heap⟩
    · exact .failed _
    · refine @sameWalk_ofList { m with heap } { m' with heap } ?_ items
      exact ⟨rfl, hunit⟩

theorem ownNames_hidingText : (Module.ofText hidingText).toOption.map (fun m =>
    m.functions.map fun f => (f.name, f.ownNames)) = some [("f", ["t", "k"])] := by
  decide +kernel

/-- What decides whether the hidden names of a function make a difference to its body. -/
def clearFacts (text name : String) (hidden : List String) : Option (Bool × Bool × Bool) := do
  let stmts ← Source.read text.toList
  let s ← siteOf Static.evaluator (Text.splitLines text) stmts name
  let used := s.body.flatMap runNames
  return (hidden.all fun id => !used.contains id ||
      ((s.before.env.lookup id).bind Static.evaluator.constant?).isNone,
    (s.body.flatMap askedBy).all fun e => e matches .constant .., (s.before.env.lookup "t").isSome)

theorem clearFacts_hidingText : clearFacts hidingText "f" ["t", "k"] = some (true, true, true) := by
  decide +kernel

theorem Reading.body_without_own_names_hiding : ∃ stmts m f s,
    readModule Static.evaluator (Text.splitLines hidingText) stmts = .ok m ∧ f ∈ m.functions ∧
    f.ownNames = ["t", "k"] ∧
    siteOf Static.evaluator (Text.splitLines hidingText) stmts f.name = some s ∧
    (s.before.env.lookup "t").isSome = true ∧
    s.block Static.evaluator (Text.splitLines hidingText) ["t", "k"] = .ok f.body := by
  obtain ⟨m, hm, hfunctions⟩ := Option.map_eq_some_iff.1 ownNames_hidingText
  obtain ⟨stmts, hstmts, hread⟩ := Module.read_eq_ok (eq_ok_of_toOption_eq_some hm)
  have hmem : ("f", ["t", "k"]) ∈ m.functions.map fun f => (f.name, f.ownNames) := by
    simp [hfunctions]
  obtain ⟨f, hf, heq⟩ := mem_map.1 hmem
  obtain ⟨hname, hown⟩ := Prod.mk.inj heq
  have hfacts := clearFacts_hidingText
  simp only [clearFacts, hstmts, Option.bind_eq_bind, Option.bind_some] at hfacts
  obtain ⟨s, hs, hfacts⟩ := Option.bind_eq_some_iff.1 hfacts
  simp only [Option.pure_def, Option.some.injEq, Prod.mk.injEq, all_eq_true] at hfacts
  obtain ⟨hnumbers, hasked, hstatic⟩ := hfacts
  have hclear : s.Clear Static.evaluator f.ownNames := by
    refine ⟨fun id hid hused => ?_, SameHeap, ⟨rfl, rfl⟩, unaffected_constants fun e he => ?_⟩
    · simpa [hused] using hnumbers id (hown ▸ hid)
    · have hconstant := hasked e he
      cases e with
      | constant q d => exact ⟨q, d, rfl⟩
      | _ => cases hconstant
  rw [← hname] at hs
  obtain ⟨s', hs', -, hblock⟩ := body_without_own_names hread hf fun s' hs' => by
    cases hs.symm.trans hs'
    exact hclear
  cases hs.symm.trans hs'
  exact ⟨stmts, m, f, s, hread, hf, hown, hs, hstatic, hown ▸ hblock⟩

/-- A function whose parameter hides a number that its body makes use of. -/
def numberText : String := "n = 3\ndef f(n):\n return n\n"

/-- Whether a body does nothing but return a variable or a parameter. -/
def Code.returnsName : Code → Bool
  | .block _ [.ret _ (.name ..)] => true
  | _ => false

/-- Whether a function returns a variable or a parameter as it is read, and without some static
names. -/
def returnsNames (text name : String) (hidden : List String) :
    Option (List String × Bool × Bool) := do
  let stmts ← Source.read text.toList
  let m ← (readModule Static.evaluator (Text.splitLines text) stmts).toOption
  let f ← Table.find? m.functions name
  let s ← siteOf Static.evaluator (Text.splitLines text) stmts name
  let c ← (s.block Static.evaluator (Text.splitLines text) hidden).toOption
  return (f.ownNames, f.body.returnsName, c.returnsName)

theorem returnsNames_numberText :
    returnsNames numberText "f" ["n"] = some (["n"], false, true) := by
  decide +kernel

theorem Reading.body_hidden_number : ∃ stmts m f s,
    readModule Static.evaluator (Text.splitLines numberText) stmts = .ok m ∧ f ∈ m.functions ∧
    f.ownNames = ["n"] ∧
    siteOf Static.evaluator (Text.splitLines numberText) stmts f.name = some s ∧
    s.block Static.evaluator (Text.splitLines numberText) f.ownNames ≠ .ok f.body := by
  have h := returnsNames_numberText
  unfold returnsNames at h
  obtain ⟨stmts, -, h⟩ := Option.bind_eq_some_iff.1 h
  obtain ⟨m, hm, h⟩ := Option.bind_eq_some_iff.1 h
  obtain ⟨f, hf, h⟩ := Option.bind_eq_some_iff.1 h
  obtain ⟨s, hs, h⟩ := Option.bind_eq_some_iff.1 h
  obtain ⟨c, hc, h⟩ := Option.bind_eq_some_iff.1 h
  simp only [Option.pure_def, Option.some.injEq, Prod.mk.injEq] at h
  obtain ⟨hown, hconstant, hname'⟩ := h
  obtain ⟨hmem, hname⟩ := Table.find?_eq_some hf
  rw [← show f.name = "f" from hname] at hs
  refine ⟨stmts, m, f, s, eq_ok_of_toOption_eq_some hm, hmem, hown, hs, fun hbody => ?_⟩
  rw [hown, eq_ok_of_toOption_eq_some hc] at hbody
  cases hbody
  exact Bool.noConfusion (hconstant.symm.trans hname')

end Sample

end DataDiagram
