import DataDiagram.Source.Bind
import DataDiagram.Source.Walk
import Mathlib.Data.List.Basic
/-!
# Parts of source trees

An expression is taken apart into the expressions right below it.  What is collected from an
expression, and what becomes of it when loop variables are bound, is said of one level at a time.
-/

namespace DataDiagram.Source

open List

variable {α : Type} {φ : Option Position → Prop}

namespace Expr

/-- The expressions right below an expression. -/
def children : Expr → List Expr
  | constant .. | name .. => []
  | unary _ _ a | field _ a _ _ | starred _ a _ | await _ a | yieldFrom _ a => [a]
  | binary _ _ a b | subscript _ a b _ | named _ a b => [a, b]
  | bool _ _ es | tuple _ es _ | list _ es _ | set _ es | joined _ es => es
  | compare _ a _ es => a :: es
  | call _ f args keywords => f :: args ++ keywords.map Prod.snd
  | slice _ a b c => a.toList ++ b.toList ++ c.toList
  | conditional _ a b c => [a, b, c]
  | lambda _ _ keywordDefaults defaults body =>
    keywordDefaults.filterMap id ++ defaults ++ [body]
  | dict _ keys values => keys.filterMap id ++ values
  | comprehension _ _ es clauses =>
    es ++ clauses.flatMap fun clause => clause.2.1 :: clause.2.2.1 :: clause.2.2.2
  | yield _ a => a.toList
  | formatted _ a _ layout => a :: layout.toList

variable {motive : Expr → Prop}

theorem children_induction_all (step : ∀ e, (∀ d ∈ e.children, motive d) → motive e) :
    (∀ e, motive e) ∧ (∀ clauses : List (Bool × Expr × Expr × List Expr),
      ∀ d ∈ clauses.flatMap fun clause => clause.2.1 :: clause.2.2.1 :: clause.2.2.2, motive d) ∧
    (∀ es : List Expr, ∀ d ∈ es, motive d) ∧
    (∀ es : List (Option Expr), ∀ d ∈ es.filterMap id, motive d) ∧
    (∀ e : Option Expr, ∀ d ∈ e.toList, motive d) ∧
    (∀ es : List (Option String × Expr), ∀ d ∈ es.map Prod.snd, motive d) := by
  apply collect.mutual_induct
  case case25 | case27 | case29 | case31 | case33 => simp
  case case26 =>
    intro _ _ he hes
    exact forall_mem_cons.2 ⟨he, hes⟩
  case case28 =>
    intro _ _ _ he hes
    exact forall_mem_cons.2 ⟨he, hes⟩
  case case30 => simp
  case case32 =>
    intro e es he hes
    cases e with
    | none => exact hes
    | some e => exact forall_mem_cons.2 ⟨he e (by simp), hes⟩
  case case34 =>
    intro _ target iter conditions rest htarget hiter hconditions hrest
    rw [flatMap_cons]
    exact forall_mem_append.2
      ⟨forall_mem_cons.2 ⟨htarget, forall_mem_cons.2 ⟨hiter, hconditions⟩⟩, hrest⟩
  all_goals intros
  all_goals refine step _ ?_
  all_goals simp only [children, forall_mem_append, cons_append, forall_mem_cons,
    not_mem_nil, false_implies, implies_true, and_true]
  all_goals tauto

theorem children_induction (step : ∀ e, (∀ d ∈ e.children, motive d) → motive e) (e : Expr) :
    motive e :=
  (children_induction_all step).1 e

/-! ## What is collected -/

theorem collectAll_eq_flatMap (f : Expr → List α) (es : List Expr) :
    collectAll f es = es.flatMap (collect f) := by
  induction es with
  | nil => rfl
  | cons e es ih => rw [collectAll, ih, flatMap_cons]

theorem collectNamed_eq_flatMap (f : Expr → List α) (es : List (Option String × Expr)) :
    collectNamed f es = (es.map Prod.snd).flatMap (collect f) := by
  induction es with
  | nil => rfl
  | cons e es ih => rw [collectNamed, ih, map_cons, flatMap_cons]

theorem collectOption_eq_flatMap (f : Expr → List α) (e : Option Expr) :
    collectOption f e = e.toList.flatMap (collect f) := by
  cases e with
  | none => rfl
  | some e => simp [collectOption]

theorem collectOptions_eq_flatMap (f : Expr → List α) (es : List (Option Expr)) :
    collectOptions f es = (es.filterMap id).flatMap (collect f) := by
  induction es with
  | nil => rfl
  | cons e es ih => cases e <;> simp [collectOptions, collectOption, ih]

theorem collectClauses_eq_flatMap (f : Expr → List α)
    (clauses : List (Bool × Expr × Expr × List Expr)) :
    collectClauses f clauses =
      (clauses.flatMap fun clause => clause.2.1 :: clause.2.2.1 :: clause.2.2.2).flatMap
      (collect f) := by
  induction clauses with
  | nil => rfl
  | cons clause clauses ih => simp [collectClauses, collectAll_eq_flatMap, ih]

theorem collect_eq (f : Expr → List α) (e : Expr) :
    e.collect f = f e ++ e.children.flatMap (collect f) := by
  cases e
  all_goals simp only [collect, children, collectAll_eq_flatMap, collectNamed_eq_flatMap,
    collectOption_eq_flatMap, collectOptions_eq_flatMap, collectClauses_eq_flatMap,
    flatMap_append, flatMap_cons, flatMap_nil, append_nil, append_assoc,
    cons_append]

/-- An expression and everything within it. -/
def parts (e : Expr) : List Expr := e.collect fun d => [d]

theorem parts_eq (e : Expr) : e.parts = e :: e.children.flatMap parts := collect_eq _ e

variable {e : Expr}

theorem mem_collect {f : Expr → List α} {x : α} : x ∈ e.collect f ↔ ∃ d ∈ e.parts, x ∈ f d := by
  induction e using children_induction with
  | step e ih =>
    rw [collect_eq, parts_eq, mem_append, mem_flatMap]
    simp only [mem_cons, mem_flatMap, exists_eq_or_imp]
    refine or_congr_right ⟨?_, ?_⟩
    · rintro ⟨c, hc, hx⟩
      obtain ⟨d, hd, hx⟩ := (ih c hc).1 hx
      exact ⟨d, ⟨c, hc, hd⟩, hx⟩
    · rintro ⟨d, ⟨c, hc, hd⟩, hx⟩
      exact ⟨c, hc, (ih c hc).2 ⟨d, hd, hx⟩⟩

/-! ## Positions -/

/-- The position of an expression and those of everything within it have a property. -/
def Placed (φ : Option Position → Prop) (e : Expr) : Prop := ∀ d ∈ e.parts, φ d.pos?

theorem placed_iff : e.Placed φ ↔ φ e.pos? ∧ ∀ d ∈ e.children, d.Placed φ := by
  simp only [Placed]
  rw [parts_eq, forall_mem_cons, forall_mem_flatMap]

theorem Placed.pos (h : (e : Expr).Placed φ) : φ e.pos? := (placed_iff.1 h).1

theorem Placed.children (h : (e : Expr).Placed φ) : ∀ d ∈ e.children, d.Placed φ :=
  (placed_iff.1 h).2

/-! ## Changes -/

section

variable {σ : Type} (node : σ → Expr → Expr) (below : σ → Position → σ) (s : σ)

theorem changeAll_eq_map (es : List Expr) :
    changeAll node below s es = es.map (change node below s) := by
  induction es with
  | nil => rfl
  | cons e es ih => rw [changeAll, ih, map_cons]

theorem changeNamed_eq_map (es : List (Option String × Expr)) :
    changeNamed node below s es = es.map (Prod.map id (change node below s)) := by
  induction es with
  | nil => rfl
  | cons e es ih => rw [changeNamed, ih, map_cons, Prod.map, id]

theorem changeOption_eq_map (e : Option Expr) :
    changeOption node below s e = e.map (change node below s) := by
  cases e <;> rfl

theorem changeOptions_eq_map (es : List (Option Expr)) :
    changeOptions node below s es = es.map (Option.map (change node below s)) := by
  induction es with
  | nil => rfl
  | cons e es ih => rw [changeOptions, ih, changeOption_eq_map, map_cons]

theorem changeClauses_eq_map (clauses : List (Bool × Expr × Expr × List Expr)) :
    changeClauses node below s clauses = clauses.map fun clause =>
      (clause.1, clause.2.1.change node below s, clause.2.2.1.change node below s,
        clause.2.2.2.map (change node below s)) := by
  induction clauses with
  | nil => rfl
  | cons clause clauses ih => rw [changeClauses, ih, changeAll_eq_map, map_cons]

variable {node} (hnode : ∀ s e, (node s e).children = e.children)

include hnode

theorem children_change (e : Expr) : (e.change node below s).children =
    e.children.map (change node below (e.pos?.elim s (below s))) := by
  cases e
  all_goals rw [change, hnode]
  all_goals simp only [children, pos?, Option.elim_some, changeAll_eq_map,
    changeNamed_eq_map, changeOption_eq_map, changeOptions_eq_map, changeClauses_eq_map, map_append,
    map_cons, map_nil, map_map, map_flatMap, flatMap_map, Option.toList_map, filterMap_map,
    map_filterMap, Function.comp_def, Prod.map, id_eq]

/-- Nothing new is found in a changed expression if nothing new is found at any of its nodes. -/
theorem collect_change_subset {f : Expr → List α} (hf : ∀ s e, f (change node below s e) ⊆ f e)
    (e : Expr) : (e.change node below s).collect f ⊆ e.collect f := by
  induction e using children_induction generalizing s with
  | step e ih =>
    intro x hx
    rw [collect_eq, children_change below s hnode, flatMap_map, mem_append, mem_flatMap] at hx
    rw [collect_eq, mem_append, mem_flatMap]
    exact hx.imp (fun hx => hf s e hx) fun ⟨d, hd, hx⟩ => ⟨d, hd, ih d hd _ hx⟩

end

theorem children_bindNode (vars : LoopVars) (e : Expr) :
    (bindNode vars e).children = e.children := by
  unfold bindNode
  split
  · split <;> rfl
  · rfl

theorem children_bind (vars : LoopVars) (e : Expr) :
    (e.bind vars).children = e.children.map (bind vars) := by
  rw [bind, children_change _ _ children_bindNode]
  cases e.pos? <;> rfl

theorem pos?_bind (vars : LoopVars) (e : Expr) :
    (e.bind vars).pos? = e.pos? ∨ vars ≠ [] ∧ (e.bind vars).pos? = none := by
  cases e with
  | name p id u =>
    rw [show (name p id u).bind vars = bindNode vars (name p id u) from rfl, bindNode]
    split
    · rename_i d hd
      refine .inr ⟨?_, rfl⟩
      rintro rfl
      cases hd
    · exact .inl rfl
  | _ => exact .inl rfl

theorem Placed.bind (h : e.Placed φ) {vars : LoopVars} (hvars : vars ≠ [] → φ none) :
    (e.bind vars).Placed φ := by
  induction e using children_induction with
  | step e ih =>
    refine placed_iff.2 ⟨?_, ?_⟩
    · rcases pos?_bind vars e with hpos | ⟨hne, hpos⟩
      · rw [hpos]
        exact h.pos
      · rw [hpos]
        exact hvars hne
    · rw [children_bind, forall_mem_map]
      exact fun d hd => ih d hd (h.children d hd)

theorem children_placedNode (p : Position) (e : Expr) : (placedNode p e).children = e.children := by
  unfold placedNode
  split <;> rfl

theorem children_placed (p : Position) (e : Expr) :
    (e.placed p).children = e.children.map (placed (e.pos?.getD p)) := by
  rw [placed, children_change _ _ children_placedNode]
  cases e.pos? <;> rfl

theorem pos?_placed (p : Position) (e : Expr) : (e.placed p).pos? = some (e.pos?.getD p) := by
  cases e <;> rfl

theorem Placed.placed {ψ : Position → Prop} (h : e.Placed fun q => ∀ p ∈ q, ψ p)
    {p : Position} (hp : ψ p) : (e.placed p).Placed fun q => ∃ p ∈ q, ψ p := by
  induction e using children_induction generalizing p with
  | step e ih =>
    have hpos : ψ (e.pos?.getD p) := by
      cases hq : e.pos? with
      | none => exact hp
      | some q => exact h.pos q hq
    refine placed_iff.2 ⟨⟨_, pos?_placed p e, hpos⟩, ?_⟩
    rw [children_placed, forall_mem_map]
    exact fun d hd => ih d hd (h.children d hd) hpos

end Expr

/-! ## Statements -/

def Params.exprs (ps : Params) : List Expr :=
  ps.all.filterMap Param.type ++ ps.keywordDefaults.filterMap id ++ ps.defaults

namespace Stmt

/-- The expressions right below a statement. -/
def exprs : Stmt → List Expr
  | function _ _ params _ decorators returns => params.exprs ++ decorators ++ returns.toList
  | cls _ _ bases keywords _ decorators => bases ++ keywords.map ClassKeyword.value ++ decorators
  | ret _ value => value.toList
  | assign _ targets value => targets ++ [value]
  | augment _ target _ value => [target, value]
  | declare _ target type value _ => target :: type :: value.toList
  | loop _ target iter _ _ => [target, iter]
  | cond _ test _ _ => [test]
  | expr _ value => [value]
  | imports .. | importsFrom .. | global .. | pass _ | other .. => []

/-- The statements right below a statement. -/
def children : Stmt → List Stmt
  | function _ _ _ body _ _ | cls _ _ _ _ body _ => body
  | loop _ _ _ body orelse | cond _ _ body orelse => body ++ orelse
  | other _ _ parts => parts
  | _ => []

/-- The position of a statement, and those of its parts that are no expressions. -/
def marks : Stmt → List Position
  | function p _ params _ _ _ => p :: params.all.map Param.pos
  | cls p _ _ keywords _ _ => p :: keywords.map ClassKeyword.pos
  | imports p names | importsFrom p _ names _ => p :: names.map Alias.pos
  | s => [s.pos]

/-- The positions in a statement have a property. -/
inductive Placed (φ : Option Position → Prop) : Stmt → Prop
  | intro {s : Stmt} : (∀ p ∈ s.marks, φ (some p)) → (∀ e ∈ s.exprs, e.Placed φ) →
    (∀ t ∈ s.children, Placed φ t) → Placed φ s

variable {s : Stmt} {f : Expr → List α}

theorem Placed.marks (h : s.Placed φ) : ∀ p ∈ s.marks, φ (some p) := by
  cases h with
  | intro hmarks _ _ => exact hmarks

theorem Placed.exprs (h : s.Placed φ) : ∀ e ∈ s.exprs, e.Placed φ := by
  cases h with
  | intro _ hexprs _ => exact hexprs

theorem Placed.children (h : s.Placed φ) : ∀ t ∈ s.children, t.Placed φ := by
  cases h with
  | intro _ _ hchildren => exact hchildren

theorem collectAll_eq_flatMap (f : Expr → List α) (ss : List Stmt) :
    collectAll f ss = ss.flatMap (collect f) := by
  induction ss with
  | nil => rfl
  | cons s ss ih => rw [collectAll, ih, flatMap_cons]

variable {x : α}

theorem mem_collect_params {ps : Params} : x ∈ ps.collect f ↔ ∃ e ∈ ps.exprs, x ∈ e.collect f := by
  simp only [Params.collect, Params.exprs, Params.all, Expr.collectOption_eq_flatMap,
    Expr.collectAll_eq_flatMap, mem_append, mem_flatMap, mem_filterMap, id_eq,
    Option.mem_toList]
  grind

theorem mem_collect :
    x ∈ s.collect f ↔ (∃ e ∈ s.exprs, x ∈ e.collect f) ∨ ∃ t ∈ s.children, x ∈ t.collect f := by
  cases s
  all_goals simp only [collect, exprs, children, collectAll_eq_flatMap, Expr.collectAll_eq_flatMap,
    Expr.collectOption_eq_flatMap, mem_append, mem_collect_params, mem_flatMap]
  all_goals grind

theorem Placed.of_mem_writes (h : s.Placed φ) {id : String} {p : Position}
    (hp : p ∈ s.collect (Expr.writes id)) : φ (some p) := by
  induction h with
  | intro _ hexprs _ ih =>
    rcases mem_collect.1 hp with ⟨e, he, hp⟩ | ⟨t, ht, hp⟩
    · obtain ⟨d, hd, hp⟩ := Expr.mem_collect.1 hp
      have hpos : d.pos? = some p := by
        unfold Expr.writes at hp
        split at hp
        · split at hp <;> simp_all [Expr.pos?]
        · simp at hp
      exact hpos ▸ hexprs e he d hd
    · exact ih t ht hp

mutual

/-- A statement and all statements within it. -/
def nested : Stmt → List Stmt
  | function p name params body decorators returns =>
    function p name params body decorators returns :: nestedAll body
  | cls p name bases keywords body decorators =>
    cls p name bases keywords body decorators :: nestedAll body
  | loop p target iter body orelse =>
    loop p target iter body orelse :: (nestedAll body ++ nestedAll orelse)
  | cond p test body orelse => cond p test body orelse :: (nestedAll body ++ nestedAll orelse)
  | other p kind parts => other p kind parts :: nestedAll parts
  | s => [s]

/-- All statements within some statements. -/
def nestedAll : List Stmt → List Stmt
  | [] => []
  | s :: rest => nested s ++ nestedAll rest

end

theorem nestedAll_eq_flatMap (ss : List Stmt) : nestedAll ss = ss.flatMap nested := by
  induction ss with
  | nil => rfl
  | cons s ss ih => rw [nestedAll, ih, flatMap_cons]

theorem nested_eq (s : Stmt) : s.nested = s :: s.children.flatMap nested := by
  cases s
  all_goals simp only [nested, children, nestedAll_eq_flatMap, flatMap_append, flatMap_nil]

end Stmt

end DataDiagram.Source
