import DataDiagram.Proofs.Reading.Objections
import DataDiagram.Proofs.Reading.WellFormed
/-!
# How reading fails

Statements that stand in a text are refused with a message about one of their nodes.  Reading fails
otherwise only for what has no place in the text, which are operators, arguments by name and
constants that stand for variables of loops, and where an evaluation is left in a way that reading
does not handle.
-/

namespace DataDiagram

open List

open Source (Expr Stmt Params Param Alias CompareOp)

namespace Reading

open Source.Stmt (functionBodies nestedAll)

/-- The variables of the loops in the functions of a text. -/
def loopNames (body : List Stmt) : List String := (functionBodies body).flatMap Stmt.loopName

section

variable {σ V : Type} (I : Evaluator σ V) (lines : List String) (body : List Stmt)

/-- A failure of the statements of a text: something is said of a statement, there is something
without a place in a function, or an evaluation is left. -/
inductive Explained : ReadError → Prop
  | objection {s : Stmt} {q : Option Position} {message : String} :
    s ∈ nestedAll body → Objection I (loopNames body) s q message →
      Explained (.code ((⟨Context.fileName, lines, q⟩ : Origin).error message))
  | unplaced {s : Stmt} {kind : String} :
    s ∈ functionBodies body → kind ∈ s.unplaced → Explained (.code (.noPosition kind))
  | left {s : Stmt} {f : Failure} {kind : ErrorKind} {message : String} :
    s ∈ nestedAll body → Leaves I s f → f.escape? = some (kind, message) →
      Explained (.left kind message)

end

section

variable {σ V : Type} {I : Evaluator σ V} {lines : List String} {body : List Stmt}
  {p part : Position} {α : Type} {err : ReadError} {P : ReadError → Prop} {s : Stmt}
    {ss : List Stmt}
  {e d type target : Expr} {kind message : String} {vars env : Names V} {value : Option Expr}
  {args : List String} {st : Progress V}

/-! ## Statements within statements -/

/-- A statement that is among others with everything in it. -/
def Stands (among : List Stmt) (s : Stmt) : Prop := s.nested ⊆ among

variable {among : List Stmt}

theorem Stands.children (h : Stands among s) : ∀ t ∈ s.children, Stands among t := by
  intro t ht r hr
  apply h
  rw [Stmt.nested_eq]
  exact mem_cons_of_mem _ (mem_flatMap.2 ⟨t, ht, hr⟩)

theorem Stands.mem (h : Stands among s) : s ∈ among := by
  apply h
  rw [Stmt.nested_eq]
  exact mem_cons_self ..

/-- A statement of a function in a text, with everything in it. -/
structure InFunction (body : List Stmt) (s : Stmt) : Prop where
  nested : Stands (nestedAll body) s
  inside : Stands (functionBodies body) s

theorem InFunction.children (h : InFunction body s) : ∀ t ∈ s.children, InFunction body t :=
  fun t ht => ⟨h.nested.children t ht, h.inside.children t ht⟩

/-! ## Objections -/

theorem explained_whole (hs : s ∈ nestedAll body) (hp : s.pos = p) (h : s.Fault message) :
    Explained I lines body ((I.context lines env).error p message) := by
  subst hp
  exact .objection hs (.whole h)

theorem explained_node (hs : s ∈ nestedAll body) (h : s.ExprFault e message) :
    Explained I lines body ((I.context lines env).errorAt e message) := .objection hs (.node h)

theorem explained_mark (hs : s ∈ nestedAll body) (h : s.MarkFault p message) :
    Explained I lines body ((I.context lines env).error p message) := .objection hs (.mark h)

/-- What an evaluation for a statement is left with is said of the statement, or it is left. -/
theorem explained_failure {f : Failure} (hs : s ∈ nestedAll body) (h : Leaves I s f) :
    Explained I lines body ((I.context lines env).failure s.pos f) := by
  cases f with
  | assertion text => exact .objection hs (.assertion h)
  | exception kind message => exact .left hs h rfl
  | exit kind message => exact .left hs h rfl

/-! ## Expressions -/

/-- An expression whose nodes may be objected to in a statement, and in which what has no place is
from a function. -/
structure Sound (I : Evaluator σ V) (body : List Stmt) (e : Expr) : Prop where
  refusal : ∀ d ∈ e.parts, ∀ q message, d.refusal? = some (q, message) →
    ∃ s ∈ nestedAll body, Objection I (loopNames body) s q message
  unplaced : ∀ kind ∈ e.collect Expr.unplaced, ∃ s ∈ functionBodies body, kind ∈ s.unplaced

theorem Sound.children (h : Sound I body e) : ∀ d ∈ e.children, Sound I body d := by
  intro d hd
  refine ⟨fun c hc => h.refusal c ?_, fun kind hkind => h.unplaced kind ?_⟩
  · rw [Expr.parts_eq]
    exact mem_cons_of_mem _ (mem_flatMap.2 ⟨d, hd, hc⟩)
  · rw [Expr.collect_eq]
    exact mem_append_right _ (mem_flatMap.2 ⟨d, hd, hkind⟩)

theorem Sound.explained (h : Sound I body e) (hkind : kind ∈ e.unplaced) :
    Explained I lines body (.code (.noPosition kind)) := by
  obtain ⟨s, hs, hmem⟩ := h.unplaced kind (by
    rw [Expr.collect_eq]
    exact mem_append_left _ hkind)
  exact .unplaced hs hmem

theorem Sound.explained_refusal {q : Option Position} (h : Sound I body e)
    (he : e.refusal? = some (q, message)) :
    Explained I lines body (.code (((I.context lines env).origin q).error message)) := by
  obtain ⟨s, hs, hobjection⟩ :=
    h.refusal e (by rw [Expr.parts_eq]; exact mem_cons_self) q message he
  exact .objection hs hobjection

theorem unplaced_bind_subset (vars : Expr.LoopVars) (e : Expr) :
    (e.bind vars).collect Expr.unplaced ⊆ e.collect Expr.unplaced := by
  refine Expr.collect_change_subset _ vars Expr.children_bindNode (fun vars e => ?_) e
  cases e with
  | name p id u =>
    rw [Expr.change, Expr.bindNode]
    split <;> exact nil_subset _
  | unary p op a => cases op <;> exact List.Subset.refl _
  | call p f args keywords =>
    simp [Expr.change, Expr.bindNode, Expr.unplaced, Expr.changeNamed_eq_map]
  | _ => exact List.Subset.refl _

theorem unplaced_placed_subset (p : Position) (e : Expr) :
    (e.placed p).collect Expr.unplaced ⊆ e.collect Expr.unplaced := by
  refine Expr.collect_change_subset _ p Expr.children_placedNode (fun p e => ?_) e
  cases e with
  | unary q op a => cases op <;> exact List.Subset.refl _
  | call q f args keywords =>
    simp [Expr.change, Expr.placedNode, Expr.unplaced, Expr.changeNamed_eq_map]
  | _ => exact List.Subset.refl _

theorem InFunction.sound (h : InFunction body s) (he : e ∈ s.exprs)
    (hvars : ∀ v ∈ vars, v.1 ∈ loopNames body) : Sound I body (e.bind (I.loopVars vars)) := by
  refine ⟨fun d hd q message hq => ⟨s, h.nested.mem, .part he hvars hd hq⟩, fun kind hkind => ?_⟩
  refine ⟨s, h.inside.mem, mem_append_right _ (mem_flatMap.2 ⟨e, he, ?_⟩)⟩
  exact unplaced_bind_subset _ e hkind

theorem InFunction.sound_test {test : Expr} {holds fails : List Stmt}
    (h : InFunction body (.cond p test holds fails)) (hvars : ∀ v ∈ vars, v.1 ∈ loopNames body) :
    Sound I body ((test.bind (I.loopVars vars)).placed startPosition) := by
  refine ⟨fun d hd q message hq => ⟨_, h.nested.mem, .test hvars hd hq⟩, fun kind hkind => ?_⟩
  refine ⟨_, h.inside.mem, mem_append_right _ (mem_flatMap.2 ⟨test, mem_cons_self, ?_⟩)⟩
  exact unplaced_bind_subset _ test (unplaced_placed_subset _ _ hkind)

/-- Whatever a lowering is refused with satisfies `P`. -/
def Refuses (x : Except ReadError α) (P : ReadError → Prop) : Prop := ∀ e, x = .error e → P e

namespace Refuses

theorem pure {a : α} : Refuses (.ok a) P := nofun

theorem throw (h : P err) : Refuses (.error err : Except ReadError α) P := by
  rintro _ ⟨⟩
  exact h

theorem bind {β : Type} {x : Except ReadError α} {f : α → Except ReadError β} (hx : Refuses x P)
    (hf : ∀ a, Refuses (f a) P) : Refuses (x >>= f) P := by
  cases x with
  | error d => exact .throw (hx d rfl)
  | ok a => exact hf a

end Refuses

theorem refuses_lowerExprs {cx : Context} {es : List Expr}
    (h : ∀ e ∈ es, Refuses (lowerExpr cx e) P) :
    Refuses (lowerExprs cx es) P := by
  induction es with
  | nil => exact .pure
  | cons e es ih =>
    rw [forall_mem_cons] at h
    rw [lowerExprs]
    exact .bind h.1 fun _ => .bind (ih h.2) fun _ => .pure

theorem refuses_comparePairs {r : Option Origin} {ops : List CompareOp} {cs : List Code}
    (h : ∀ op ∈ ops, ∀ kind, compareSymbol op = .error kind → P (.code (.noPosition kind))) :
    Refuses (comparePairs r ops cs) P := by
  fun_induction comparePairs r ops cs with
  | case1 op ops a b rest kind hkind => exact .throw (h op (mem_cons_self ..) kind hkind)
  | case2 op ops a b rest symbol hsymbol ih =>
    exact .bind (ih (forall_mem_cons.1 h).2) fun _ => .pure
  | case3 => exact .pure

/-- How an expression is refused. -/
theorem refuses_lowerExpr (h : Sound I body e) :
    Refuses (lowerExpr (I.context lines env) e) (Explained I lines body) := by
  induction e using Expr.children_induction with
  | step e ih =>
    have hchild : ∀ d ∈ e.children, Refuses (lowerExpr (I.context lines env) d)
        (Explained I lines body) :=
      fun d hd => ih d hd (h.children d hd)
    have hlist : ∀ es ⊆ e.children,
        Refuses (lowerExprs (I.context lines env) es) (Explained I lines body) :=
          fun es hes => refuses_lowerExprs fun d hd => hchild d (hes hd)
    cases e with
    | constant p d =>
      rw [lowerExpr]
      split
      · exact .pure
      · rename_i hnone
        exact .throw (h.explained_refusal (by simp [Expr.refusal?, hnone]))
    | name p id u =>
      rw [lowerExpr]
      split <;> exact .pure
    | unary p op a =>
      cases op with
      | invert =>
        rw [lowerExpr]
        exact .throw (h.explained (mem_cons_self ..))
      | _ =>
        rw [lowerExpr]
        exact .bind (hchild a (mem_cons_self ..)) fun _ => .pure
    | binary p op a b =>
      rw [lowerExpr]
      split
      · exact .bind (hchild a (mem_cons_self ..)) fun _ =>
          .bind (hchild b (mem_cons_of_mem _ (mem_cons_self ..))) fun _ => .pure
      · rename_i hnone
        exact .throw (h.explained (by simp [Expr.unplaced, hnone]))
    | bool p op values =>
      rw [lowerExpr]
      exact .bind (hlist values (List.Subset.refl _)) fun _ => .pure
    | compare p a ops rights =>
      rw [lowerExpr]
      refine .bind (hchild a (mem_cons_self ..)) fun _ =>
        .bind (hlist rights (subset_cons_self ..)) fun _ => ?_
      refine .bind (refuses_comparePairs fun op hop kind hkind => ?_) fun _ => .pure
      exact h.explained (mem_filterMap.2 ⟨op, hop, by rw [hkind]⟩)
    | call p f args keywords =>
      rw [lowerExpr.eq_def]
      dsimp only
      split
      · rename_i hkeywords
        exact .throw (h.explained (by simpa [Expr.unplaced] using hkeywords))
      · split
        · refine .bind (hlist args fun d hd => ?_) fun _ => .pure
          exact mem_append_left _ (mem_cons_of_mem _ hd)
        · rename_i hname
          refine .throw (h.explained_refusal (if_neg ?_))
          cases f with
          | name p id u => exact absurd rfl (hname p id u)
          | _ => simp [Expr.isName]
    | field p a attr u =>
      rw [lowerExpr]
      exact .bind (hchild a (mem_cons_self ..)) fun _ => .pure
    | subscript p a i u =>
      rw [lowerExpr]
      exact .bind (hchild a (mem_cons_self ..)) fun _ =>
        .bind (hchild i (mem_cons_of_mem _ (mem_cons_self ..))) fun _ => .pure
    | _ =>
      rw [lowerExpr]
      exact .throw (h.explained_refusal rfl)

/-! ## Static parts -/

theorem fails_static {x : StateM σ (Evaluated V)} {cx : Context}
    (hraised : ∀ m text n, x.run m = (.raised text, n) →
      P (cx.error part s!"not static expression ({text})"))
    (hleft : ∀ m f n, x.run m = (.left f, n) → P (cx.failure p f)) :
    Fails (static cx p part x) P := by
  refine .lift_bind fun m outcome n hrun => ?_
  cases outcome with
  | value v => exact .pure
  | raised text => exact .throw (hraised m text n hrun)
  | left f => exact .throw (hleft m f n hrun)

theorem fails_orFail {x : StateM σ (Except Failure α)} {cx : Context}
    (h : ∀ m f n, x.run m = (.error f, n) → P (cx.failure p f)) : Fails (orFail cx p x) P := by
  refine .lift_bind fun m outcome n hrun => ?_
  cases outcome with
  | ok a => exact .pure
  | error f => exact .throw (h m f n hrun)

/-- The rounds of a loop fail as one of them does, or as what is gone through does. -/
theorem fails_rounds {cx : Context} {round : V → Read σ (List α)} (hround : ∀ v, Fails (round v) P)
    (w : Walk σ V) (hmeets : ∀ f, w.Meets f → P (cx.failure p f)) :
    Fails (w.rounds cx p round) P := by
  induction w with
  | done s =>
    rw [Walk.rounds]
    exact .set_bind fun _ => .pure
  | failed f =>
    rw [Walk.rounds]
    exact .throw (hmeets f .here)
  | next v s more ih =>
    rw [Walk.rounds]
    refine .set_bind fun _ => .bind (hround v) fun own => .get_bind fun s' => ?_
    exact .bind (ih s' fun f hf => hmeets f (.later hf)) fun _ => .pure

theorem meets_of_collect {w : Walk σ V} {m n : σ} {f : Failure}
    (h : w.collect.run m = (.error f, n)) : w.Meets f := by
  induction w generalizing m n f with
  | done s => cases h
  | failed g =>
    cases h
    exact .here
  | next v s more ih =>
    rcases hrest : (more s).collect.run m with ⟨g | rest, k⟩
    · have hrun : (Walk.next v s more).collect.run m = (.error g, k) := by
        rw [Walk.collect]
        simp only [StateT.run_bind, hrest]
        rfl
      rw [hrun] at h
      cases h
      exact .later (ih s hrest)
    · have hrun : (Walk.next v s more).collect.run m = (.ok (v :: rest), k) := by
        rw [Walk.collect]
        simp only [StateT.run_bind, hrest]
        rfl
      rw [hrun] at h
      cases h

/-- How the evaluation of an expression of a statement fails. -/
theorem fails_evaluate (hs : s ∈ nestedAll body) (hp : s.pos = p) (he : e ∈ s.exprs)
    (hvars : ∀ v ∈ vars, v.1 ∈ loopNames body) {env' : Names V} :
    Fails (static (I.context lines env') p (placeOf (e.bind (I.loopVars vars)))
      (I.evaluate env vars e)) (Explained I lines body) := by
  subst hp
  exact fails_static (fun _ _ _ hrun => .objection hs (.raised he hvars hrun))
    fun _ _ _ hrun => explained_failure hs (.evaluate he hrun)

theorem fails_evaluate_plain (hs : s ∈ nestedAll body) (hp : s.pos = p) (he : e ∈ s.exprs)
    {env' : Names V} : Fails (static (I.context lines env') p (placeOf e) (I.evaluate env [] e))
      (Explained I lines body) := by
  have hplace : placeOf (e.bind (I.loopVars [])) = placeOf e := by
    rcases Expr.pos?_bind (I.loopVars []) e with hpos | ⟨hne, -⟩
    · rw [placeOf, hpos, placeOf]
    · exact absurd rfl hne
  rw [← hplace]
  exact fails_evaluate hs hp he (forall_mem_nil _)

/-- How the definition of a name by a statement fails. -/
theorem fails_define (hs : s ∈ nestedAll body) (hp : s.pos = p) {env' : Names V} {name : String} :
    Fails (static (I.context lines env') p p (I.define env s name)) (Explained I lines body) := by
  subst hp
  exact fails_static (fun _ _ _ hrun => .objection hs (.undefined hrun))
    fun _ _ _ hrun => explained_failure hs (.define hrun)

theorem fails_staticTest {test : Expr} {holds fails : List Stmt}
    (hs : Stmt.cond p test holds fails ∈ nestedAll body) :
    Fails (staticTest I lines env p vars test) (Explained I lines body) := by
  refine .lift_bind fun m outcome n hrun => ?_
  have hleft {f : Failure} (h : outcome = .left f) :
      Leaves I (.cond p test holds fails) f := .evaluate (mem_cons_self ..) (h ▸ hrun)
  cases outcome with
  | value v =>
    exact .bind (fails_orFail fun _ _ _ htruth => explained_failure hs (.truth htruth)) fun _ =>
      .pure
  | raised text => exact .pure
  | left f =>
    cases f with
    | exit kind message => exact .throw (.left hs (hleft rfl) rfl)
    | _ => exact .pure

/-! ## Statements -/

theorem fails_lowerExpr (h : Sound I body e) :
    Fails (liftM (lowerExpr (I.context lines env) e) : Read σ Code) (Explained I lines body) :=
  .lift (refuses_lowerExpr h)

theorem fails_lowerTarget (hs : InFunction body s) (he : e ∈ s.exprs)
    (hvars : ∀ v ∈ vars, v.1 ∈ loopNames body) :
    Fails (lowerTarget (I.context lines env) (e.bind (I.loopVars vars)) : Read σ Code)
      (Explained I lines body) :=
  .bind (fails_lowerExpr (hs.sound he hvars)) fun _ => .ite (fun _ => .pure) fun _ =>
    .throw (.objection hs.nested.mem (.target he hvars))

mutual

/-- How a statement of a function is refused. -/
theorem fails_lowerStmt : ∀ (vars : Names V) (s : Stmt), (∀ v ∈ vars, v.1 ∈ loopNames body) →
    InFunction body s → Fails (lowerStmt I lines env vars s) (Explained I lines body)
  | vars, .expr p e, hvars, hs => by
    rw [lowerStmt.eq_def]
    dsimp only
    split
    · exact .bind (fails_lowerExpr (hs.sound (mem_cons_self ..) hvars)) fun _ => .pure
    · rename_i hcall
      refine .throw (explained_whole hs.nested.mem rfl (.bare ?_))
      cases e with
      | call p f args keywords => exact absurd rfl (hcall p f args keywords)
      | _ => rfl
  | vars, .assign p targets value, hvars, hs => by
    rw [lowerStmt.eq_def]
    dsimp only
    split
    · exact .bind (fails_lowerTarget hs (mem_append_left _ (mem_cons_self ..)) hvars) fun _ =>
        .bind (fails_lowerExpr (hs.sound (mem_append_right _ (mem_cons_self ..)) hvars)) fun _ =>
          .pure
    · rename_i hone
      refine .throw (explained_whole hs.nested.mem rfl (.targets fun hlength => ?_))
      obtain ⟨target, rfl⟩ := length_eq_one_iff.1 hlength
      exact hone target rfl
  | vars, .augment p target op value, hvars, hs => by
    rw [lowerStmt]
    split
    · refine .bind (fails_lowerTarget hs (mem_cons_self ..) hvars) fun _ => ?_
      refine .bind (fails_lowerExpr (hs.sound (mem_cons_of_mem _ (mem_cons_self ..)) hvars)) ?_
      exact fun _ => .pure
    · rename_i hnone
      refine .throw (.unplaced hs.inside.mem (mem_append_left _ ?_))
      simp [Stmt.unplacedUpdate, hnone]
  | vars, .cond p test holds fails, hvars, hs => by
    have hholds := fails_lowerStmts vars holds hvars fun t ht =>
      hs.children t (mem_append_left _ ht)
    have hfails := fails_lowerStmts vars fails hvars fun t ht =>
      hs.children t (mem_append_right _ ht)
    rw [lowerStmt]
    refine .bind (fails_staticTest hs.nested.mem) fun outcome => ?_
    split
    · exact .bind hholds fun _ => .pure
    · exact .bind hfails fun _ => .pure
    · exact .bind hholds fun _ => .bind hfails fun _ =>
        .bind (fails_lowerExpr (hs.sound_test hvars)) fun _ => .pure
  | vars, .loop p target iter round orelse, hvars, hs => by
    rw [lowerStmt.eq_def]
    dsimp only
    split
    · rename_i q id u
      refine .ite (fun hne => .throw_bind ?_) fun _ => ?_
      · exact explained_whole hs.nested.mem rfl (.otherwise (by simpa using hne))
      refine .bind (fails_evaluate hs.nested.mem rfl (mem_cons_of_mem _ (mem_cons_self ..)) hvars)
        fun v => ?_
      refine .get_bind fun m => .bind (fails_rounds (fun v => ?_) _ fun f hf => ?_) fun _ => .pure
      · have hid : id ∈ loopNames body := mem_flatMap.2 ⟨_, hs.inside.mem, mem_cons_self ..⟩
        refine fails_lowerRound _ id round (forall_mem_cons.2 ⟨hid, hvars⟩) (fun t ht =>
          hs.children t (mem_append_left _ ht)) fun t ht r hr => ?_
        exact explained_mark hs.nested.mem (.index ht hr)
      · exact explained_failure hs.nested.mem (.walk (.inl rfl) hf)
    · rename_i hname
      exact .throw (explained_node hs.nested.mem (.iterator (Expr.isName_eq_false hname)))
  | vars, .ret p none, hvars, hs => by
    rw [lowerStmt]
    exact .pure
  | vars, .ret p (some e), hvars, hs => by
    rw [lowerStmt]
    exact .bind (fails_lowerExpr (hs.sound (mem_cons_self ..) hvars)) fun _ => .pure
  | vars, .pass p, hvars, hs => by
    rw [lowerStmt]
    exact .pure
  | vars, .declare .., _, hs => by
    rw [lowerStmt]
    exact .throw (explained_whole hs.nested.mem rfl (.inner (.inl rfl)))
  | vars, .function .., _, hs | vars, .cls .., _, hs => by
    rw [lowerStmt]
    exact .throw (explained_whole hs.nested.mem rfl (.inner (.inr rfl)))
  | vars, .imports .., _, hs | vars, .importsFrom .., _, hs | vars, .global .., _, hs
  | vars, .other .., _, hs => by
    rw [lowerStmt]
    exact .throw (explained_whole hs.nested.mem rfl (.foreign rfl))

theorem fails_lowerStmts : ∀ (vars : Names V) (ss : List Stmt), (∀ v ∈ vars, v.1 ∈ loopNames body) →
    (∀ s ∈ ss, InFunction body s) → Fails (lowerStmts I lines env vars ss) (Explained I lines body)
  | vars, [], _, _ => by
    rw [lowerStmts]
    exact .pure
  | vars, s :: rest, hvars, hss => by
    rw [forall_mem_cons] at hss
    rw [lowerStmts]
    exact .bind (fails_lowerStmt vars s hvars hss.1) fun _ =>
      .bind (fails_lowerStmts vars rest hvars hss.2) fun _ => .pure

theorem fails_lowerRound : ∀ (vars : Names V) (id : String) (ss : List Stmt),
    (∀ v ∈ vars, v.1 ∈ loopNames body) → (∀ s ∈ ss, InFunction body s) →
    (∀ s ∈ ss, ∀ r ∈ s.collect (Expr.writes id),
      Explained I lines body ((I.context lines env).error r "cannot assign for-loop index")) →
    Fails (lowerRound I lines env vars id ss) (Explained I lines body)
  | vars, id, [], _, _, _ => by
    rw [lowerRound]
    exact .pure
  | vars, id, s :: rest, hvars, hss, hindex => by
    rw [forall_mem_cons] at hss hindex
    rw [lowerRound]
    split
    · rename_i r hr
      exact .throw (hindex.1 r (mem_of_mem_head? hr))
    · exact .bind (fails_lowerStmt vars s hvars hss.1) fun _ =>
        .bind (fails_lowerRound vars id rest hvars hss.2 hindex.2) fun _ => .pure

end

/-! ## Variables -/

theorem fails_declare {name : String} (hs : s ∈ nestedAll body) (hp : s.pos = p)
    (hdeclares : s.declares = true) :
    Fails (st.declare (I.context lines env) name p : Read σ _) (Explained I lines body) := by
  unfold Progress.declare
  split
  · exact .throw (explained_whole hs hp (.twice _ hdeclares))
  · exact .pure

theorem ensures_initialValue {cx : Context} (value : Option Expr) :
    Ensures (initialValue I cx env p value) fun init =>
    ∀ v, init = .value v → ∃ e, value = some e := by
  cases value with
  | none => exact .pure nofun
  | some e => exact .bind (.trivial _) fun v _ => .pure fun _ _ => ⟨e, rfl⟩

section Declare

variable {simple : Bool}

theorem fails_initialValue (hs : Stmt.declare p target type value simple ∈ nestedAll body) :
    Fails (initialValue I (I.context lines env) env p value) (Explained I lines body) := by
  cases value with
  | none => exact .pure
  | some e =>
    exact .bind (fails_evaluate_plain hs rfl (by simp [Stmt.exprs])) fun _ => .pure

theorem fails_arrayItems {v : V}
    (hs : Stmt.declare p target type (some e) simple ∈ nestedAll body) :
    Fails (arrayItems I (I.context lines env) (some e) v) (Explained I lines body) := by
  refine .get_bind fun m => .lift_bind fun m' outcome n hrun => ?_
  cases outcome with
  | ok items => exact .pure
  | error f =>
    have hleaves : Leaves I (.declare p target type (some e) simple) f :=
      .walk (.inr rfl) (meets_of_collect hrun)
    cases f with
    | exit kind message => exact .throw (.left hs hleaves rfl)
    | _ => exact .throw (explained_node hs .value)

theorem fails_variableType {init : Initial V}
    (hs : Stmt.declare p target type value simple ∈ nestedAll body)
    (hinit : ∀ v, init = .value v → ∃ e, value = some e) :
    Fails (variableType I (I.context lines env) p type value init) (Explained I lines body) := by
  unfold variableType
  split
  · split
    · split
      · obtain ⟨e, rfl⟩ := hinit _ rfl
        refine .ite (fun _ => .throw_bind (explained_whole hs rfl (.missing rfl))) fun _ => ?_
        exact .bind (fails_arrayItems hs) fun _ => .pure
      · exact .throw (explained_whole hs rfl (.missing rfl))
    · rename_i items hname
      exact .throw (explained_node hs (.items (Expr.isName_eq_false hname)))
    · rename_i hname _
      exact .throw (explained_node hs (.base (Expr.isName_eq_false hname)))
  · exact .pure
  · rename_i hsubscript hname
    exact .throw (explained_node hs (.type fun q id u h => absurd h (hname q id u)))

theorem ensures_variableType_name {cx : Context} {init : Initial V}
    (hname : ∃ q id u, type = .name q id u) :
    Ensures (variableType I cx p type value init) fun r => ∀ q id u, type = .name q id u →
    r.1 = id := by
  obtain ⟨q, id, u, rfl⟩ := hname
  refine .pure ?_
  rintro _ _ _ ⟨⟩
  rfl

theorem fails_variableName (hs : Stmt.declare p target type value simple ∈ nestedAll body) :
    Fails (variableName (I.context lines env) target : Read σ _) (Explained I lines body) := by
  unfold variableName
  split
  · exact .pure
  · rename_i hname
    exact .throw (explained_node hs (.declared (Expr.isName_eq_false hname)))

theorem fails_readDraft {name : String}
    (hs : Stmt.declare p target type value simple ∈ nestedAll body) :
    Fails (readDraft I lines st p name type value) (Explained I lines body) := by
  refine .bind_of (fails_initialValue hs) (ensures_initialValue value) fun init hinit => ?_
  have htype : Ensures (variableType I (I.context lines st.env) p type value init) fun r =>
      ∀ q id u, type = .name q id u → r.1 = id := by
    by_cases hname : ∃ q id u, type = .name q id u
    · exact ensures_variableType_name hname
    · exact fun _ _ _ _ q id u h => absurd ⟨q, id, u, h⟩ hname
  refine .bind_of (fails_variableType hs hinit) htype fun r hr =>
    .ite (fun _ => .pure) fun hknown => ?_
  refine .throw (explained_node hs (.type fun q id u h => ?_))
  simp only [hr q id u h, Progress.isType, Bool.or_eq_true, beq_iff_eq, not_or] at hknown
  exact hknown.1

theorem ensures_readDraft_ref {name : String} :
    Ensures (readDraft I lines st p name type value) fun d =>
      d.var.ref = some ⟨Context.fileName, lines, some p⟩ := by
  refine .bind (.trivial _) fun init _ => .bind (.trivial _) fun r _ => ?_
  exact .ite (fun _ => .pure rfl) fun _ => .throw

theorem fails_readVar (hs : Stmt.declare p target type value simple ∈ nestedAll body) :
    Fails (readVar I lines st p target type value) (Explained I lines body) :=
  .bind (fails_variableName hs) fun _ => .bind (fails_declare hs rfl rfl) fun _ =>
    .bind (fails_readDraft hs) fun _ => .pure

end Declare

/-! ## Functions -/

section Functions

variable {name : String} {params : Params} {inner : List Stmt} {decorators : List Expr}
  {returns : Option Expr}

theorem fails_requirePlain
    (hs : Stmt.function p name params inner decorators returns ∈ nestedAll body) :
    Fails (requirePlain (I.context lines env) params : Read σ Unit) (Explained I lines body) := by
  unfold requirePlain
  dsimp only
  split
  · rename_i a h
    exact .throw (explained_mark hs (.argument (by simp [Params.all, h])))
  · rename_i a _ h
    exact .throw (explained_mark hs (.argument (by simp [Params.all, h])))
  · rename_i a _ _ _ h
    exact .throw (explained_mark hs (.argument (by simp [Params.all, h])))
  · rename_i e _ _ _ _ h
    exact .throw (explained_node hs (.default (by simp [h])))
  · exact .pure

theorem fails_readGlobals {vars : List (VarDraft V)} {all names : List String}
    (hs : Stmt.global p all ∈ nestedAll body) (hnames : names ⊆ all) :
    Fails (readGlobals (I.context lines env) vars args p names : Read σ _)
    (Explained I lines body) := by
  induction names with
  | nil => exact .pure
  | cons name rest ih =>
    rw [cons_subset] at hnames
    unfold readGlobals
    refine .ite (fun _ => .throw_bind (explained_whole hs rfl (.globalArgument hnames.1))) fun _ =>
      ?_
    dsimp only
    split
    · exact .bind (ih hnames.2) fun _ => .pure
    · exact .throw (explained_whole hs rfl (.unknownGlobal hnames.1))

theorem ensures_variableName {cx : Context} :
    Ensures (variableName cx target : Read σ _) fun name => ∃ q u, target = .name q name u := by
  unfold variableName
  split
  · rename_i q name u
    exact .pure ⟨q, u, rfl⟩
  · exact .throw

theorem fails_readBody {b : BodyProgress V} (hss : ∀ s ∈ ss, InFunction body s) :
    Fails (readBody I lines st args b ss) (Explained I lines body) := by
  induction ss generalizing b with
  | nil => exact .pure
  | cons s rest ih =>
    rw [forall_mem_cons] at hss
    have hs := hss.1.nested.mem
    unfold readBody
    dsimp only
    split
    · refine .ite (fun _ => .throw_bind (explained_whole hs rfl .lateGlobal)) fun _ => ?_
      refine .ite (fun _ => .throw_bind (explained_whole hs rfl .globalAfterLocal)) fun _ => ?_
      exact .bind (fails_readGlobals hs (List.Subset.refl _)) fun _ => ih hss.2
    · rename_i p target type value simple
      refine .ite (fun _ => .throw_bind (explained_whole hs rfl (.late rfl))) fun _ => ?_
      refine .bind_of (fails_variableName hs) ensures_variableName fun name hname => ?_
      obtain ⟨q, u, rfl⟩ := hname
      refine .bind (fails_readDraft hs) fun draft => ?_
      refine .ite (fun _ => .throw_bind (explained_whole hs rfl .localArgument)) fun _ => ?_
      refine .ite (fun _ => .throw_bind (explained_whole hs rfl .localGlobal)) fun _ => ?_
      exact .ite (fun _ => .throw_bind (explained_whole hs rfl (.missing rfl))) fun _ => ih hss.2
    · exact .bind (fails_lowerStmt [] s nofun hss.1) fun _ => ih hss.2

theorem fails_readFunction
    (hs : Stands (nestedAll body) (.function p name params inner decorators returns)) :
    Fails (readFunction I lines st (.function p name params inner decorators returns) p name params
      inner decorators) (Explained I lines body) := by
  have hinner : ∀ t ∈ inner, InFunction body t := by
    refine fun t ht => ⟨hs.children t ht, fun r hr => mem_flatMap.2 ⟨_, hs.mem, ?_⟩⟩
    rw [Stmt.inside, Stmt.nestedAll_eq_flatMap]
    exact mem_flatMap.2 ⟨t, ht, hr⟩
  refine .bind (fails_declare hs.mem rfl rfl) fun st' => ?_
  dsimp only
  split
  · exact .throw_bind (explained_node hs.mem (.decorator (mem_cons_self ..)))
  · refine .bind (fails_requirePlain hs.mem) fun _ => .bind (fails_readBody hinner) fun _ => ?_
    exact .bind (fails_define hs.mem rfl) fun _ => .pure

end Functions

/-! ## Declarations -/

theorem fails_requireNamed {library : Option String} {names : List Alias} {level : Nat} {a : Alias}
    (hs : Stmt.importsFrom p library names level ∈ nestedAll body) (ha : a ∈ names) :
    Fails (requireNamed (I.context lines env) a : Read σ Unit) (Explained I lines body) :=
  .ite (fun hstar => .throw (explained_mark hs (.star ha (by simpa using hstar)))) fun _ => .pure

theorem fails_readImports {require : Context → Alias → Read σ Unit} {names : List Alias}
    (hs : s ∈ nestedAll body) (hp : s.pos = p)
    (hrequire : ∀ a ∈ names, ∀ env, Fails (require (I.context lines env) a)
      (Explained I lines body)) :
    Fails (readImports I lines s p require st names) (Explained I lines body) := by
  induction names generalizing st with
  | nil => exact .pure
  | cons a rest ih =>
    rw [forall_mem_cons] at hrequire
    unfold readImports
    exact .bind (hrequire.1 _) fun _ => .bind (fails_define hs hp) fun _ => ih hrequire.2

section Classes

variable {name : String} {bases decorators : List Expr} {keywords : List Source.ClassKeyword}
  {inner : List Stmt}

theorem fails_requireDecorators {ds : List Expr}
    (hs : Stmt.cls p name bases keywords inner decorators ∈ nestedAll body)
    (hds : ds ⊆ decorators) :
    Fails (requireDecorators (I.context lines env) ds : Read σ Unit) (Explained I lines body) := by
  fun_induction requireDecorators (σ := σ) (I.context lines env) ds with
  | case1 => exact .pure
  | case2 _ _ rest ih => exact ih (cons_subset.1 hds).2
  | case3 d rest => exact .throw (explained_node hs (.classDecorator (cons_subset.1 hds).1))

theorem fails_parentNames {ds : List Expr}
    (hs : Stmt.cls p name bases keywords inner decorators ∈ nestedAll body) (hds : ds ⊆ bases) :
    Fails (parentNames (I.context lines env) ds : Read σ _) (Explained I lines body) := by
  fun_induction parentNames (σ := σ) (I.context lines env) ds with
  | case1 => exact .pure
  | case2 _ _ _ rest ih => exact .bind (ih (cons_subset.1 hds).2) fun _ => .pure
  | case3 b rest hname =>
    exact .throw (explained_node hs (.parent (cons_subset.1 hds).1 (Expr.isName_eq_false hname)))

end Classes

mutual

theorem fails_readStmt : ∀ (st : Progress V) (s : Stmt), Stands (nestedAll body) s →
    Fails (readStmt I lines st s) (Explained I lines body)
  | st, .declare p target type value simple, hs => by
    rw [readStmt]
    exact .bind (fails_readVar hs.mem) fun _ => .pure
  | st, .assign p targets value, hs => by
    rw [readStmt.eq_def]
    dsimp only
    split
    · refine .bind (fails_declare hs.mem rfl rfl) fun st' => ?_
      exact .bind (fails_evaluate_plain hs.mem rfl (mem_append_right _ (mem_cons_self ..))) fun _ =>
        .pure
    · rename_i target hname
      exact .throw (explained_node hs.mem (.assigned (Expr.isName_eq_false hname)))
    · rename_i hname hone
      refine .throw (explained_whole hs.mem rfl (.targets fun hlength => ?_))
      obtain ⟨target, rfl⟩ := length_eq_one_iff.1 hlength
      exact hone target rfl
  | st, .function p name params inner decorators returns, hs => by
    rw [readStmt]
    exact .bind (fails_readFunction hs) fun _ => .pure
  | st, .imports p names, hs => by
    rw [readStmt]
    exact .bind (fails_readImports hs.mem rfl fun _ _ _ => .pure) fun _ => .pure
  | st, .importsFrom p library names level, hs => by
    rw [readStmt]
    exact .bind (fails_readImports hs.mem rfl fun a ha _ => fails_requireNamed hs.mem ha) fun _ =>
      .pure
  | st, .cls p name bases keywords inner decorators, hs => by
    rw [readStmt]
    refine .bind (fails_declare hs.mem rfl rfl) fun st' => ?_
    dsimp only
    split
    · exact .throw_bind (explained_mark hs.mem (.keyword (mem_cons_self ..)))
    · refine .bind (fails_requireDecorators hs.mem (List.Subset.refl _)) fun _ => ?_
      refine .bind (fails_parentNames hs.mem (List.Subset.refl _)) fun _ => ?_
      refine .bind (fails_readFields _ inner hs.children) fun r => ?_
      refine .bind (fails_define hs.mem rfl) fun defined => ?_
      refine .bind (fails_orFail fun _ _ _ hrun => ?_) fun _ => .pure
      exact explained_failure hs.mem (.record hrun)
  | st, .ret .., hs | st, .augment .., hs | st, .loop .., hs | st, .cond .., hs | st, .global .., hs
  | st, .expr .., hs | st, .pass _, hs | st, .other .., hs => by
    have hforeign :
        Explained I lines body ((I.context lines st.env).error _ "unsupported syntax") :=
      explained_whole hs.mem rfl (.foreign rfl)
    rw [readStmt]
    exact .throw hforeign

theorem fails_readFields : ∀ (st : Progress V) (ss : List Stmt),
    (∀ s ∈ ss, Stands (nestedAll body) s) →
    Fails (readFields I lines st ss) (Explained I lines body)
  | st, [], _ => by
    rw [readFields]
    exact .pure
  | st, s :: rest, hss => by
    rw [forall_mem_cons] at hss
    rw [readFields]
    -- Only a declaration of a variable is read as one.
    refine .bind_of (fails_readStmt st s hss.1) (ensures_readStmt_declare lines st s) fun r hr => ?_
    obtain ⟨st', var⟩ := r
    cases var with
    | some v => exact .bind (fails_readFields _ rest hss.2) fun _ => .pure
    | none =>
      refine .throw (explained_whole hss.1.mem rfl (.noField ?_))
      by_contra hdeclare
      obtain ⟨d, hd⟩ := hr (Stmt.exists_of_isDeclare (by simpa using hdeclare))
      cases hd

end

theorem fails_readAll (hss : ∀ s ∈ ss, Stands (nestedAll body) s) :
    Fails (readAll I lines st ss) (Explained I lines body) := by
  induction ss generalizing st with
  | nil => exact .pure
  | cons s rest ih =>
    rw [forall_mem_cons] at hss
    -- A variable without a value is shown at its declaration.
    have href : Ensures (readStmt I lines st s) fun r => ∀ d, r.2 = some d →
        s.isDeclare = true ∧ d.var.ref = some ⟨Context.fileName, lines, some s.pos⟩ := by
      refine ensures_readStmt_var lines st s (P := fun d _ => s.isDeclare = true ∧
        d.var.ref = some ⟨Context.fileName, lines, some s.pos⟩) fun p target type value simple
          hs => ?_
      subst hs
      refine .bind (.trivial _) fun name _ => .bind (.trivial _) fun st' _ => ?_
      exact .bind ensures_readDraft_ref fun d hd => .pure ⟨rfl, hd⟩
    unfold readAll
    refine .bind_of (fails_readStmt st s hss.1) href fun r hr => ?_
    dsimp only
    split
    · rename_i d hd
      refine .ite (fun _ => .throw_bind ?_) fun _ => ih hss.2
      obtain ⟨hdeclare, hvarref⟩ := hr d hd
      rw [Code.error, show d.var.code.ref = d.var.ref from rfl, hvarref]
      exact .objection hss.1.mem (.whole (.missing hdeclare))
    · exact ih hss.2

/-- However parts of them are evaluated, how statements fail to be read. -/
theorem explained_readModule (h : readModule I lines body = .error err) :
    Explained I lines body err := by
  unfold readModule at h
  split at h
  · cases h
  · rename_i e n hrun
    cases h
    refine fails_readAll (fun s hs => ?_) I.start _ n hrun
    rw [Stands, Stmt.nestedAll_eq_flatMap]
    exact fun t ht => mem_flatMap.2 ⟨s, hs, ht⟩

/-! ## Failures at places -/

/-- The failures of statements that are not at a place in their text. -/
inductive Stray (I : Evaluator σ V) (body : List Stmt) : ReadError → Prop
  /-- A function has an operator, a comparison or arguments by name that the language has not. -/
  | unplaced {s : Stmt} {kind : String} :
    s ∈ functionBodies body → kind ∈ s.unplaced → Stray I body (.code (.noPosition kind))
  /-- A loop variable stands for a constant where the language has none. -/
  | loopConstant {s : Stmt} :
    s ∈ functionBodies body → s.isLoop = true → Stray I body (.code (.noPosition "Constant"))
  /-- An evaluation for a statement is left with something that is not handled. -/
  | left {s : Stmt} {f : Failure} {kind : ErrorKind} {message : String} :
    s ∈ nestedAll body → Leaves I s f → f.escape? = some (kind, message) →
      Stray I body (.left kind message)

theorem exists_isLoop (h : loopNames body ≠ []) : ∃ s ∈ functionBodies body, s.isLoop = true := by
  obtain ⟨id, hid⟩ := exists_mem_of_ne_nil _ h
  obtain ⟨s, hs, hid⟩ := mem_flatMap.1 hid
  refine ⟨s, hs, ?_⟩
  cases s with
  | loop => rfl
  | _ => exact absurd hid not_mem_nil

/-- What is said of a node that has no position fails for a constant of a loop. -/
theorem Known.located_or_stray {text : String} {q : Option Position} (hne : text.toList ≠ [])
    (hq : Known (loopNames body) (Source.Places.of (Source.normalLines text.toList)) q) :
    (∃ p shown, q = some p ∧ p.Within (Source.Places.of (Source.normalLines text.toList)) ∧
      Origin.lineAt? (Text.splitLines text) p.line = some shown ∧
      (⟨Context.fileName, Text.splitLines text, q⟩ : Origin).error message =
        .located ⟨message, Context.fileName, p.line, p.column, some shown⟩) ∨
    (⟨Context.fileName, Text.splitLines text, q⟩ : Origin).error message = .noPosition "Constant" ∧
      ∃ s ∈ functionBodies body, s.isLoop = true := by
  rcases hq with ⟨p, rfl, hp⟩ | ⟨rfl, hloops⟩
  · obtain ⟨shown, hshown⟩ := lineAt?_eq_some hne hp
    exact .inl ⟨p, shown, rfl, hp, hshown, by simp only [Origin.error, hshown]⟩
  · exact .inr ⟨rfl, exists_isLoop hloops⟩

/-- A shown error of statements in a text has the position and the message of an objection. -/
theorem exists_objection {text : String} {l : Located} (hstand : StandIn text body)
    (h : readModule I (Text.splitLines text) body = .error (.code (.located l))) :
    ∃ s p message shown, s ∈ nestedAll body ∧ Objection I (loopNames body) s (some p) message ∧
      p.Within (Source.Places.of (Source.normalLines text.toList)) ∧
      Origin.lineAt? (Text.splitLines text) p.line = some shown ∧
      l = ⟨message, Context.fileName, p.line, p.column, some shown⟩ := by
  generalize herr : ReadError.code (.located l) = err at h
  cases explained_readModule h with
  | unplaced hs hkind => cases herr
  | left hs hleaves hescape => cases herr
  | objection hs hobjection =>
    have hknown := hobjection.known (hstand.placed_of_mem hs) (startPosition_within _)
    rcases hknown.located_or_stray (hstand.ne_nil hs)
      with ⟨p, shown, rfl, hp, hshown, herror⟩ | ⟨herror, -⟩
    · rw [herror] at herr
      cases herr
      exact ⟨_, p, _, shown, hs, hobjection, hp, hshown, rfl⟩
    · rw [herror] at herr
      cases herr

end

section Sample

/-- The error of a text that the grammar accepts. -/
def readError? (text : String) : Option ReadError :=
  match Source.read text.toList with
  | none => none
  | some body =>
    match readModule Static.evaluator (Text.splitLines text) body with
    | .ok _ => none
    | .error e => some e

theorem exists_of_readError? {text : String} {e : ReadError} (h : readError? text = some e) :
    ∃ body, StandIn text body ∧
      readModule Static.evaluator (Text.splitLines text) body = .error e := by
  unfold readError? at h
  split at h
  · cases h
  · rename_i body hread
    split at h
    · cases h
    · rename_i e' herror
      cases h
      exact ⟨body, standIn_read hread, herror⟩

theorem exists_of_readErrorKind {text : String} {kind : ErrorKind}
    (h : (readError? text).map ReadError.kind = some kind) : ∃ body e, StandIn text body ∧
      readModule Static.evaluator (Text.splitLines text) body = .error e ∧ e.kind = kind := by
  obtain ⟨e, he, hkind⟩ := Option.map_eq_some_iff.1 h
  obtain ⟨body, hstand, herror⟩ := exists_of_readError? he
  exact ⟨body, e, hstand, herror, hkind⟩

/-- A loop whose variable stands for a text. -/
def textLoop : String := "def f(x):\n for i in 'a':\n  x = i\n"

theorem readError?_textLoop : (readError? textLoop).map ReadError.kind = some .attribute := by
  decide +kernel

/-- A function with a division, which the language has not. -/
def divisionText : String := "def f(x):\n    return x / 2\n"

theorem readError?_divisionText :
    (readError? divisionText).map ReadError.kind = some .attribute := by
  decide +kernel

end Sample

end Reading

end DataDiagram
