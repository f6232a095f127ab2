import DataDiagram.Proofs.Computation
import DataDiagram.Proofs.Source.Walk
import DataDiagram.Reading.Module
/-!
# Readings in two environments

Code is read the same in two environments if its names stand for the same numbers in both and what
is evaluated ahead of the program cannot tell them apart.  Evaluations may leave different states
behind, as long as nothing that is evaluated later depends on the difference.
-/

namespace DataDiagram

open List

open Source (Expr Stmt)
open Source.Expr (usedNames)

variable {ε σ α β : Type} {R : σ → σ → Prop}

/-- Two computations that end with the same from related states, and leave related states. -/
def Steps (R : σ → σ → Prop) (x x' : StateM σ α) : Prop :=
  ∀ m m', R m m' → ∃ a n n', x.run m = (a, n) ∧ x'.run m' = (a, n') ∧ R n n'

/-- The same for computations that can fail. -/
def Related (R : σ → σ → Prop) (x x' : ExceptT ε (StateM σ) α) : Prop :=
  ∀ m m', R m m' → ∃ r n n', x.run m = (r, n) ∧ x'.run m' = (r, n') ∧ R n n'

namespace Related

variable {x x' : ExceptT ε (StateM σ) α} {f f' : α → ExceptT ε (StateM σ) β}

theorem pure (a : α) : Related R (Pure.pure a : ExceptT ε (StateM σ) α) (Pure.pure a) :=
  fun m m' h => ⟨.ok a, m, m', rfl, rfl, h⟩

theorem throw (e : ε) : Related R (throw e : ExceptT ε (StateM σ) α) (throw e) :=
  fun m m' h => ⟨.error e, m, m', rfl, rfl, h⟩

theorem throw_bind (e : ε) :
    Related R (MonadExcept.throw e >>= f) (MonadExcept.throw e >>= f') :=
  fun m m' h => ⟨.error e, m, m', rfl, rfl, h⟩

theorem lift (x : Except ε α) : Related R (liftM x : ExceptT ε (StateM σ) α) (liftM x) :=
  fun m m' h => ⟨x, m, m', rfl, rfl, h⟩

theorem ite {c : Prop} [Decidable c] {y y' : ExceptT ε (StateM σ) α} (hx : c → Related R x x')
    (hy : ¬c → Related R y y') : Related R (if c then x else y) (if c then x' else y') := by
  split
  · exact hx ‹_›
  · exact hy ‹_›

theorem bind (hx : Related R x x') (hf : ∀ a, Related R (f a) (f' a)) :
    Related R (x >>= f) (x' >>= f') := by
  intro m m' h
  obtain ⟨r, n, n', hrun, hrun', hn⟩ := hx m m' h
  cases r with
  | error e => exact ⟨.error e, n, n', run_bind_error hrun, run_bind_error hrun', hn⟩
  | ok a =>
    obtain ⟨r, k, k', hf, hf', hk⟩ := hf a n n' hn
    exact ⟨r, k, k', (run_bind_ok hrun).trans hf, (run_bind_ok hrun').trans hf', hk⟩

theorem lift_bind {y y' : StateM σ α} (hy : Steps R y y') (hf : ∀ a, Related R (f a) (f' a)) :
    Related R ((liftM y : ExceptT ε (StateM σ) α) >>= f)
      ((liftM y' : ExceptT ε (StateM σ) α) >>= f') := by
  refine .bind (fun m m' h => ?_) hf
  obtain ⟨a, n, n', hrun, hrun', hn⟩ := hy m m' h
  have hok (z : StateM σ α) (l : σ) :
      (liftM z : ExceptT ε (StateM σ) α).run l = (.ok (z.run l).1, (z.run l).2) := rfl
  exact ⟨.ok a, n, n', by rw [hok, hrun], by rw [hok, hrun'], hn⟩

theorem set_bind {s s' : σ} {f f' : PUnit → ExceptT ε (StateM σ) β} (h : R s s')
    (hf : ∀ u, Related R (f u) (f' u)) : Related R (set s >>= f) (set s' >>= f') :=
  fun _ _ _ => hf _ s s' h

theorem get_bind {f f' : σ → ExceptT ε (StateM σ) β}
    (hf : ∀ m m', R m m' → Related R (f m) (f' m')) : Related R (get >>= f) (get >>= f') :=
  fun m m' h => hf m m' h m m' h

end Related

namespace Reading

/-! ## Expressions -/

theorem usedNames_bind (vars : Expr.LoopVars) (e : Expr) :
    (e.bind vars).collect usedNames ⊆ e.collect usedNames := by
  refine Expr.collect_change_subset _ vars Expr.children_bindNode (fun vars e => ?_) e
  cases e with
  | name p id u =>
    rw [Expr.change, Expr.bindNode]
    split
    · exact List.nil_subset _
    · exact List.Subset.refl _
  | _ => exact List.Subset.refl _

theorem usedNames_placed (p : Position) (e : Expr) :
    (e.placed p).collect usedNames ⊆ e.collect usedNames := by
  refine Expr.collect_change_subset _ p Expr.children_placedNode (fun p e => ?_) e
  cases e <;> exact List.Subset.refl _

/-- Two contexts in which some names stand for the same constants. -/
structure SameNumbers (cx cx' : Context) (ids : List String) : Prop where
  lines : cx'.lines = cx.lines
  numbers : ∀ id ∈ ids, cx'.constant? id = cx.constant? id

variable {cx cx' : Context}

theorem SameNumbers.mono {ids ids' : List String} (h : SameNumbers cx cx' ids) (hsub : ids' ⊆ ids) :
    SameNumbers cx cx' ids' :=
  ⟨h.lines, fun id hid => h.numbers id (hsub hid)⟩

theorem SameNumbers.origin_eq {ids : List String} (h : SameNumbers cx cx' ids)
    (q : Option Position) :
    cx'.origin q = cx.origin q := by
  rw [Context.origin, h.lines]
  rfl

mutual

theorem lowerExpr_congr : ∀ e : Expr, SameNumbers cx cx' (e.collect usedNames) →
    lowerExpr cx' e = lowerExpr cx e
  | .constant .., h => by
    rw [lowerExpr, lowerExpr, h.origin_eq]
  | .name p id u, h => by
    rw [lowerExpr, lowerExpr, h.numbers id (by simp [Expr.collect, usedNames]), h.origin_eq]
  | .unary p op e, h => by
    rw [lowerExpr.eq_def, lowerExpr.eq_def]
    dsimp only
    rw [lowerExpr_congr e (h.mono (by simp [Expr.collect])), h.origin_eq]
  | .binary p op a b, h => by
    rw [lowerExpr, lowerExpr, lowerExpr_congr a (h.mono (by simp [Expr.collect])),
      lowerExpr_congr b (h.mono (by simp [Expr.collect])), h.origin_eq]
  | .bool p op values, h => by
    rw [lowerExpr, lowerExpr, lowerExprs_congr values (h.mono (by simp [Expr.collect])),
      h.origin_eq]
  | .compare p a ops rights, h => by
    rw [lowerExpr, lowerExpr, lowerExpr_congr a (h.mono (by simp [Expr.collect])),
      lowerExprs_congr rights (h.mono (by simp [Expr.collect])), h.origin_eq]
  | .call p f args keywords, h => by
    rw [lowerExpr.eq_def, lowerExpr.eq_def]
    dsimp only [Context.errorAt]
    rw [lowerExprs_congr args (h.mono fun id hid => by simp [Expr.collect, hid])]
    simp only [h.origin_eq]
  | .field p e attr u, h => by
    rw [lowerExpr, lowerExpr, lowerExpr_congr e (h.mono (by simp [Expr.collect])), h.origin_eq]
  | .subscript p e i u, h => by
    rw [lowerExpr, lowerExpr, lowerExpr_congr e (h.mono (by simp [Expr.collect])),
      lowerExpr_congr i (h.mono (by simp [Expr.collect])), h.origin_eq]
  | .slice .., h | .tuple .., h | .list .., h | .starred .., h | .conditional .., h | .lambda .., h
  | .set .., h | .dict .., h | .comprehension .., h | .await .., h | .yield .., h | .yieldFrom .., h
  | .joined .., h | .formatted .., h | .named .., h => by
    rw [lowerExpr, lowerExpr, Context.error, Context.error, h.origin_eq]

theorem lowerExprs_congr : ∀ es : List Expr, SameNumbers cx cx' (Expr.collectAll usedNames es) →
      lowerExprs cx' es = lowerExprs cx es
  | [], _ => by rw [lowerExprs, lowerExprs]
  | e :: rest, h => by
    rw [lowerExprs, lowerExprs, lowerExpr_congr e (h.mono (by simp [Expr.collectAll])),
      lowerExprs_congr rest (h.mono (by simp [Expr.collectAll]))]

end

/-! ## Evaluations -/

section Statements

variable {V : Type} {I : Evaluator σ V} {lines : List String} {env env' : Names V}

/-- Two ways to go through a value that meet the same, with related states. -/
inductive SameWalk (R : σ → σ → Prop) : Walk σ V → Walk σ V → Prop
  | done {s s' : σ} : R s s' → SameWalk R (.done s) (.done s')
  | failed (f : Failure) : SameWalk R (.failed f) (.failed f)
  | next {v : V} {s s' : σ} {more more' : σ → Walk σ V} : R s s' →
    (∀ t t', R t t' → SameWalk R (more t) (more' t')) → SameWalk R (.next v s more)
      (.next v s' more')

/-- Some expressions evaluate to the same in two environments, from states that are not told
apart. -/
structure Unaffected (I : Evaluator σ V) (R : σ → σ → Prop) (env env' : Names V)
    (asked : List Expr) :
    Prop where
  evaluate : ∀ e ∈ asked, ∀ vars, Steps R (I.evaluate env vars e) (I.evaluate env' vars e)
  truth : ∀ v, Steps R (I.truth v) (I.truth v)
  walk : ∀ v m m', R m m' → SameWalk R (I.walk v m) (I.walk v m')

/-- What two environments have in common: numbers for some names, and the values of some
expressions. -/
structure Common (I : Evaluator σ V) (R : σ → σ → Prop) (env env' : Names V) (used : List String)
    (asked : List Expr) : Prop where
  used : ∀ id ∈ used, (env'.lookup id).bind I.constant? = (env.lookup id).bind I.constant?
  asked : Unaffected I R env env' asked

variable {used used' : List String} {asked asked' : List Expr} {e : Expr}

theorem Common.mono (h : Common I R env env' used asked) (hused : used' ⊆ used)
    (hasked : asked' ⊆ asked) : Common I R env env' used' asked' :=
  ⟨fun id hid => h.used id (hused hid),
    fun e he => h.asked.evaluate e (hasked he), h.asked.truth, h.asked.walk⟩

theorem SameWalk.refl (w : Walk σ V) : SameWalk Eq w w := by
  induction w with
  | done s => exact .done rfl
  | failed f => exact .failed f
  | next v s more ih =>
    refine .next rfl fun t t' h => ?_
    subst h
    exact ih t

theorem Common.refl (used : List String) (asked : List Expr) : Common I Eq env env used asked := by
  have hsteps {α : Type} (x : StateM σ α) : Steps Eq x x := by
    intro m m' h
    subst h
    exact ⟨_, _, _, rfl, rfl, rfl⟩
  refine ⟨fun _ _ => rfl, fun e _ vars => hsteps _, fun v => hsteps _, fun v m m' h => ?_⟩
  subst h
  exact .refl _

theorem Common.sameNumbers (h : Common I R env env' used asked) :
    SameNumbers (I.context lines env) (I.context lines env') used := ⟨rfl, h.used⟩

theorem related_static (p part : Position) {x x' : StateM σ (Evaluated V)} (hx : Steps R x x') :
    Related R (static (I.context lines env) p part x)
    (static (I.context lines env') p part x') := by
  refine .lift_bind hx fun outcome => ?_
  cases outcome with
  | value v => exact .pure v
  | raised text => exact .throw _
  | left f => cases f <;> exact .throw _

theorem related_orFail (p : Position) {x x' : StateM σ (Except Failure α)} (hx : Steps R x x') :
    Related R (orFail (I.context lines env) p x) (orFail (I.context lines env') p x') := by
  refine .lift_bind hx fun outcome => ?_
  cases outcome with
  | ok a => exact .pure a
  | error f => cases f <;> exact .throw _

theorem related_rounds (p : Position) {round round' : V → Read σ (List α)}
    (hround : ∀ v, Related R (round v) (round' v)) {w w' : Walk σ V} (hw : SameWalk R w w') :
    Related R (w.rounds (I.context lines env) p round)
    (w'.rounds (I.context lines env') p round') := by
  induction hw with
  | done h =>
    rw [Walk.rounds, Walk.rounds]
    exact .set_bind h fun _ => .pure []
  | failed f =>
    rw [Walk.rounds, Walk.rounds]
    cases f <;> exact .throw _
  | @next v s s' more more' h _ ih =>
    rw [Walk.rounds, Walk.rounds]
    refine .set_bind h fun _ => .bind (hround v) fun own => .get_bind fun m m' hm => ?_
    exact .bind (ih m m' hm) fun rest => .pure _

theorem related_staticTest (p : Position) (vars : Names V) (h : Common I R env env' used [e]) :
    Related R (staticTest I lines env p vars e) (staticTest I lines env' p vars e) := by
  refine .lift_bind (h.asked.evaluate e mem_cons_self vars) fun outcome => ?_
  cases outcome with
  | value v => exact .bind (related_orFail p (h.asked.truth v)) fun b => .pure _
  | raised text => exact .pure _
  | left f => cases f <;> first | exact .pure _ | exact .throw _

/-! ## Statements -/

mutual

/-- What a statement evaluates ahead of the program: tests, what loops go through, and initial
values. -/
def askedBy : Stmt → List Expr
  | .cond _ test body orelse => test :: (askedByAll body ++ askedByAll orelse)
  | .loop _ _ iter body _ => iter :: askedByAll body
  | .declare _ _ _ value _ => value.toList
  | _ => []

/-- What several statements evaluate ahead of the program. -/
def askedByAll : List Stmt → List Expr
  | [] => []
  | s :: rest => askedBy s ++ askedByAll rest

end

theorem related_lowerExpr (vars : Names V) (h : Common I R env env' (e.collect usedNames) asked) :
    Related R (liftM (lowerExpr (I.context lines env) (e.bind (I.loopVars vars))) : Read σ Code)
      (liftM (lowerExpr (I.context lines env') (e.bind (I.loopVars vars)))) := by
  rw [lowerExpr_congr _ (h.sameNumbers.mono (usedNames_bind (I.loopVars vars) e))]
  exact .lift _

theorem related_lowerTarget (vars : Names V) (h : Common I R env env' (e.collect usedNames) asked) :
    Related R (lowerTarget (I.context lines env) (e.bind (I.loopVars vars)) : Read σ Code)
      (lowerTarget (I.context lines env') (e.bind (I.loopVars vars))) := by
  refine (related_lowerExpr vars h).bind fun c => ?_
  split
  · exact .pure c
  · exact .throw _

mutual

theorem related_lowerStmt : ∀ (vars : Names V) (s : Stmt),
    Common I R env env' (s.collect usedNames) (askedBy s) →
      Related R (lowerStmt I lines env vars s) (lowerStmt I lines env' vars s)
  | vars, .expr p e, h => by
    rw [lowerStmt.eq_def, lowerStmt.eq_def]
    dsimp only
    split
    · exact (related_lowerExpr vars h).bind fun c => .pure _
    · exact .throw _
  | vars, .assign p targets value, h => by
    rw [lowerStmt.eq_def, lowerStmt.eq_def]
    dsimp only
    split
    · next target =>
        have htarget : Common I R env env' (target.collect usedNames) [] :=
          h.mono (by simp [Stmt.collect, Expr.collectAll]) (nil_subset _)
        have hvalue : Common I R env env' (value.collect usedNames) [] :=
          h.mono (by simp [Stmt.collect]) (nil_subset _)
        exact (related_lowerTarget vars htarget).bind fun left =>
          (related_lowerExpr vars hvalue).bind fun right => .pure _
    · exact .throw _
  | vars, .augment p target op value, h => by
    rw [lowerStmt, lowerStmt]
    split
    · have htarget : Common I R env env' (target.collect usedNames) [] :=
        h.mono (by simp [Stmt.collect]) (nil_subset _)
      have hvalue : Common I R env env' (value.collect usedNames) [] :=
        h.mono (by simp [Stmt.collect]) (nil_subset _)
      exact (related_lowerTarget vars htarget).bind fun left =>
        (related_lowerExpr vars hvalue).bind fun right => .pure _
    · exact .throw _
  | vars, .cond p test body orelse, h => by
    have htest : Common I R env env' (test.collect usedNames) [test] :=
      h.mono (by simp [Stmt.collect]) (by simp [askedBy])
    have hbody := related_lowerStmts vars body (h.mono (fun id hid => by simp [Stmt.collect, hid])
      fun e he => by simp [askedBy, he])
    have horelse := related_lowerStmts vars orelse (h.mono (by simp [Stmt.collect])
      fun e he => by simp [askedBy, he])
    have hsame : SameNumbers (I.context lines env) (I.context lines env')
        (((test.bind (I.loopVars vars)).placed startPosition).collect usedNames) :=
      htest.sameNumbers.mono (List.Subset.trans (usedNames_placed _ _) (usedNames_bind _ test))
    rw [lowerStmt, lowerStmt]
    refine (related_staticTest p vars htest).bind fun outcome => ?_
    split
    · exact hbody.bind fun cs => .pure _
    · exact horelse.bind fun cs => .pure _
    · refine hbody.bind fun holds => horelse.bind fun fails => ?_
      rw [lowerExpr_congr _ hsame]
      exact (Related.lift _).bind fun c => .pure _
  | vars, .loop p target iter body orelse, h => by
    rw [lowerStmt.eq_def, lowerStmt.eq_def]
    dsimp only
    split
    · next id _ =>
        have hbody (v : V) := related_lowerRound ((id, v) :: vars) id body
          (h.mono (fun id hid => by simp [Stmt.collect, hid]) fun e he => by simp [askedBy, he])
        refine .ite (fun _ => .throw_bind _) fun _ => ?_
        refine (related_static p _ (h.asked.evaluate iter mem_cons_self vars)).bind fun v => ?_
        refine .get_bind fun m m' hm => ?_
        exact (related_rounds p hbody (h.asked.walk v m m' hm)).bind fun rounds => .pure _
    · exact .throw _
  | vars, .ret p none, _ => by
    rw [lowerStmt, lowerStmt]
    exact .pure _
  | vars, .ret p (some e), h => by
    rw [lowerStmt, lowerStmt]
    exact (related_lowerExpr vars h).bind fun v => .pure _
  | vars, .pass p, _ => by
    rw [lowerStmt, lowerStmt]
    exact .pure _
  | vars, .declare .., _ | vars, .function .., _ | vars, .cls .., _ | vars, .imports .., _
  | vars, .importsFrom .., _ | vars, .global .., _ | vars, .other .., _ => by
    rw [lowerStmt, lowerStmt]
    exact .throw _

theorem related_lowerStmts : ∀ (vars : Names V) (stmts : List Stmt),
    Common I R env env' (Stmt.collectAll usedNames stmts) (askedByAll stmts) →
      Related R (lowerStmts I lines env vars stmts) (lowerStmts I lines env' vars stmts)
  | vars, [], _ => by
    rw [lowerStmts, lowerStmts]
    exact .pure _
  | vars, s :: rest, h => by
    have hs := related_lowerStmt vars s (h.mono (by simp [Stmt.collectAll]) (by simp [askedByAll]))
    have hrest := related_lowerStmts vars rest
      (h.mono (by simp [Stmt.collectAll]) (by simp [askedByAll]))
    rw [lowerStmts, lowerStmts]
    exact hs.bind fun c => hrest.bind fun more => .pure _

theorem related_lowerRound : ∀ (vars : Names V) (id : String) (stmts : List Stmt),
    Common I R env env' (Stmt.collectAll usedNames stmts) (askedByAll stmts) →
      Related R (lowerRound I lines env vars id stmts) (lowerRound I lines env' vars id stmts)
  | vars, id, [], _ => by
    rw [lowerRound, lowerRound]
    exact .pure _
  | vars, id, s :: rest, h => by
    have hs := related_lowerStmt vars s (h.mono (by simp [Stmt.collectAll]) (by simp [askedByAll]))
    have hrest := related_lowerRound vars id rest
      (h.mono (by simp [Stmt.collectAll]) (by simp [askedByAll]))
    rw [lowerRound, lowerRound]
    split
    · exact .throw _
    · exact hs.bind fun c => hrest.bind fun more => .pure _

end

/-! ## Bodies of functions -/

theorem related_initialValue (p : Position) {value : Option Expr}
    (h : Common I R env env' used value.toList) :
    Related R (initialValue I (I.context lines env) env p value)
      (initialValue I (I.context lines env') env' p value) := by
  cases value with
  | none => exact .pure _
  | some e => exact (related_static p _ (h.asked.evaluate e mem_cons_self [])).bind fun v => .pure _

theorem steps_collect {w w' : Walk σ V} (hw : SameWalk R w w') : Steps R w.collect w'.collect := by
  induction hw with
  | @done s s' h => exact fun _ _ _ => ⟨.ok [], s, s', rfl, rfl, h⟩
  | failed f => exact fun m m' h => ⟨.error f, m, m', rfl, rfl, h⟩
  | @next v s s' more more' h _ ih =>
    intro m m' hm
    obtain ⟨r, n, n', hrun, hrun', hn⟩ := ih s s' h m m' hm
    have hcollect {w : σ → Walk σ V} {t l k : σ} (hw : (w t).collect.run l = (r, k)) :
        (Walk.next v t w).collect.run l = (r.map (v :: ·), k) := by
      rw [Walk.collect]
      simp only [StateT.run_bind, hw]
      cases r <;> rfl
    exact ⟨r.map (v :: ·), n, n', hcollect hrun, hcollect hrun', hn⟩

theorem related_arrayItems (value : Option Expr) (v : V) (h : Common I R env env' used asked) :
    Related R (arrayItems I (I.context lines env) value v)
      (arrayItems I (I.context lines env') value v) := by
  refine .get_bind fun m m' hm => .lift_bind (steps_collect (h.asked.walk v m m' hm)) fun outcome =>
    ?_
  cases outcome with
  | ok items => exact .pure items
  | error f => cases f <;> exact .throw _

theorem related_variableType (p : Position) (type : Expr) (value : Option Expr) (init : Initial V)
    (h : Common I R env env' used asked) :
    Related R (variableType I (I.context lines env) p type value init)
      (variableType I (I.context lines env') p type value init) := by
  unfold variableType
  split
  · split
    · split
      · refine .ite (fun _ => .throw_bind _) fun _ => ?_
        exact (related_arrayItems value _ h).bind fun items => .pure _
      · exact .throw _
    · exact .throw _
    · exact .throw _
  · exact .pure _
  · exact .throw _

theorem related_variableName (target : Expr) :
    Related R (variableName (I.context lines env) target : Read σ _)
      (variableName (I.context lines env') target) := by
  unfold variableName
  split
  · exact .pure _
  · exact .throw _

theorem related_readGlobals (vars : List (VarDraft V)) (args : List String) (p : Position)
    (names : List String) :
    Related R (readGlobals (I.context lines env) vars args p names : Read σ _)
      (readGlobals (I.context lines env') vars args p names) := by
  induction names with
  | nil => exact .pure []
  | cons name rest ih =>
    unfold readGlobals
    refine .ite (fun _ => .throw_bind _) fun _ => ?_
    dsimp only
    split
    · exact ih.bind fun more => .pure _
    · exact .throw _

/-- The names in what a statement of a function does, other than to declare a variable. -/
def runNames : Stmt → List String
  | .declare .. => []
  | s => s.collect usedNames

variable {st st' : Progress V}

theorem related_readDraft {value : Option Expr} (h : Common I R st.env st'.env used value.toList)
    (hclasses : st'.classes = st.classes) (p : Position) (name : String) (type : Expr) :
    Related R (readDraft I lines st p name type value)
    (readDraft I lines st' p name type value) := by
  refine (related_initialValue p h).bind fun init => ?_
  refine (related_variableType p type value init h).bind fun r => ?_
  have htype : st'.isType r.1 = st.isType r.1 := by
    rw [Progress.isType, hclasses]
    rfl
  obtain ⟨typeName, size, init⟩ := r
  dsimp only at htype ⊢
  rw [htype]
  split
  · exact .pure _
  · exact .throw _

/-- The body of a function is read the same in two environments. -/
theorem related_readBody (args : List String) (hvars : st'.vars = st.vars)
    (hclasses : st'.classes = st.classes) : ∀ (stmts : List Stmt) (b : BodyProgress V),
    Common I R st.env st'.env (stmts.flatMap runNames) (stmts.flatMap askedBy) →
      Related R (readBody I lines st args b stmts) (readBody I lines st' args b stmts)
  | [], b, _ => .pure b
  | s :: rest, b, h => by
    have ih (b : BodyProgress V) := related_readBody args hvars hclasses rest b
      (h.mono (by simp) (by simp))
    unfold readBody
    dsimp only
    split
    · next p names =>
        refine .ite (fun _ => .throw_bind _) fun _ => .ite (fun _ => .throw_bind _) fun _ => ?_
        rw [hvars]
        exact (related_readGlobals st.vars args p names).bind fun globals => ih _
    · next p target type value simple =>
        have hvalue : Common I R st.env st'.env [] value.toList :=
          h.mono (nil_subset _) (by simp [askedBy])
        refine .ite (fun _ => .throw_bind _) fun _ => (related_variableName target).bind fun name =>
          ?_
        refine (related_readDraft hvalue hclasses p name type).bind fun draft => ?_
        refine .ite (fun _ => .throw_bind _) fun _ => .ite (fun _ => .throw_bind _) fun _ => ?_
        exact .ite (fun _ => .throw_bind _) fun _ => ih _
    · next hglobal hdeclare =>
        have hs : runNames s = s.collect usedNames := by
          cases s with
          | declare => exact (hdeclare _ _ _ _ _ rfl).elim
          | _ => rfl
        have hcommon : Common I R st.env st'.env (s.collect usedNames) (askedBy s) :=
          h.mono (by rw [flatMap_cons, hs]; exact subset_append_left ..) (by simp)
        exact (related_lowerStmt [] s hcommon).bind fun c => ih _

end Statements

end Reading

end DataDiagram
