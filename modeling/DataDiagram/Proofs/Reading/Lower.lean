import DataDiagram.Reading.Lower
import DataDiagram.Proofs.Code.Shape
import DataDiagram.Proofs.Computation
/-!
# The shape of what is read

Whatever the source, an expression is read as an expression, and a statement as statements that
stand side by side: blocks that come of loops and of tests that are decided are opened where they
stand.
-/

namespace DataDiagram

open List

namespace Reading

open Source (Expr Stmt CompareOp)
open Code (Expression IsStatement)

/-! ## Expressions -/

variable {c : Code} {cs pairs : List Code}

theorem expression_withRef {calls : Bool} (r : Option Origin) (h : Expression calls c) :
    Expression calls (withRef r c) := by
  cases h with
  | const => exact .const
  | name => exact .name
  | op h => exact .op h
  | attr hv => exact .attr hv
  | item hv hi => exact .item hv hi
  | call h => exact .call h

theorem expression_comparePairs {r : Option Origin} {ops : List CompareOp}
    (hcs : ∀ c ∈ cs, Expression true c) (h : comparePairs r ops cs = .ok pairs) :
    ∀ c ∈ pairs, Expression true c := by
  induction ops generalizing cs pairs with
  | nil =>
    cases h
    simp
  | cons op ops ih =>
    match cs, hcs, h with
    | [], _, h | [_], _, h =>
      cases h
      simp
    | a :: b :: rest, hcs, h =>
      rw [comparePairs] at h
      split at h
      · exact nomatch h
      · obtain ⟨more, hmore, hpure⟩ := bind_eq_ok_iff.1 h
        cases hpure
        rw [forall_mem_cons] at hcs
        have hb : Expression true b := hcs.2 b mem_cons_self
        have hpair : ∀ c ∈ [a, b], Expression true c :=
          forall_mem_cons.2 ⟨hcs.1, forall_mem_singleton.2 hb⟩
        exact forall_mem_cons.2 ⟨.op hpair, ih hcs.2 hmore⟩

theorem expression_conjunction (r : Option Origin)
    (h : ∀ c ∈ pairs, Expression true c) : Expression true (conjunction r pairs) := by
  unfold conjunction
  split
  · exact h _ mem_cons_self
  · exact .op h

theorem lowerExpr_call_eq_ok {cx : Context} {p : Position} {f : Expr} {args : List Expr}
    {keywords : List (Option String × Expr)}
    (h : lowerExpr cx (.call p f args keywords) = .ok c) :
    ∃ r id cs, c = .callOf r id cs ∧ lowerExprs cx args = .ok cs := by
  rw [lowerExpr.eq_def] at h
  dsimp only at h
  split at h
  · exact nomatch h
  · split at h
    · obtain ⟨cs, hcs, hpure⟩ := bind_eq_ok_iff.1 h
      exact ⟨_, _, cs, (Except.ok.inj hpure).symm, hcs⟩
    · exact nomatch h

mutual

theorem expression_lowerExpr (cx : Context) :
    ∀ (e : Expr) {c : Code}, lowerExpr cx e = .ok c → Expression true c
  | .constant p d, c, h => by
    rw [lowerExpr] at h
    split at h
    · cases h
      exact .const
    · exact nomatch h
  | .name p id u, c, h => by
    rw [lowerExpr] at h
    split at h
    · cases h
      exact .const
    · cases h
      exact .name
  | .unary p .plus e, c, h => by
    rw [lowerExpr] at h
    obtain ⟨c', hc', hpure⟩ := bind_eq_ok_iff.1 h
    cases hpure
    exact expression_withRef _ (expression_lowerExpr cx e hc')
  | .unary p .minus e, c, h | .unary p .logicalNot e, c, h => by
    rw [lowerExpr] at h
    obtain ⟨c', hc', hpure⟩ := bind_eq_ok_iff.1 h
    cases hpure
    exact .op (forall_mem_singleton.2 (expression_lowerExpr cx e hc'))
  | .unary p .invert e, c, h => by
    rw [lowerExpr] at h
    exact nomatch h
  | .binary p op a b, c, h => by
    rw [lowerExpr] at h
    split at h
    · obtain ⟨left, hleft, h₁⟩ := bind_eq_ok_iff.1 h
      obtain ⟨right, hright, hpure⟩ := bind_eq_ok_iff.1 h₁
      cases hpure
      exact .op (forall_mem_cons.2 ⟨expression_lowerExpr cx a hleft,
        forall_mem_singleton.2 (expression_lowerExpr cx b hright)⟩)
    · exact nomatch h
  | .bool p op values, c, h => by
    rw [lowerExpr] at h
    obtain ⟨cs, hcs, hpure⟩ := bind_eq_ok_iff.1 h
    cases hpure
    exact .op (expression_lowerExprs cx values hcs)
  | .compare p a ops rights, c, h => by
    rw [lowerExpr] at h
    obtain ⟨left, hleft, h₁⟩ := bind_eq_ok_iff.1 h
    obtain ⟨others, hothers, h₂⟩ := bind_eq_ok_iff.1 h₁
    obtain ⟨pairs, hpairs, hpure⟩ := bind_eq_ok_iff.1 h₂
    cases hpure
    have hall : ∀ c ∈ left :: others, Expression true c :=
      forall_mem_cons.2 ⟨expression_lowerExpr cx a hleft, expression_lowerExprs cx rights hothers⟩
    exact expression_conjunction _ (expression_comparePairs hall hpairs)
  | .call p f args keywords, c, h => by
    obtain ⟨r, id, cs, rfl, hcs⟩ := lowerExpr_call_eq_ok h
    exact .call (expression_lowerExprs cx args hcs)
  | .field p e attr u, c, h => by
    rw [lowerExpr] at h
    obtain ⟨v, hv, hpure⟩ := bind_eq_ok_iff.1 h
    cases hpure
    exact .attr (expression_lowerExpr cx e hv)
  | .subscript p e i u, c, h => by
    rw [lowerExpr] at h
    obtain ⟨v, hv, h₁⟩ := bind_eq_ok_iff.1 h
    obtain ⟨item, hitem, hpure⟩ := bind_eq_ok_iff.1 h₁
    cases hpure
    exact .item (expression_lowerExpr cx e hv) (expression_lowerExpr cx i hitem)
  | .slice .., _, h | .tuple .., _, h | .list .., _, h | .starred .., _, h | .conditional .., _, h
  | .lambda .., _, h | .set .., _, h | .dict .., _, h | .comprehension .., _, h | .await .., _, h
  | .yield .., _, h | .yieldFrom .., _, h | .joined .., _, h | .formatted .., _, h
  | .named .., _, h => by
    rw [lowerExpr] at h
    exact nomatch h

theorem expression_lowerExprs (cx : Context) :
    ∀ (es : List Expr) {cs : List Code}, lowerExprs cx es = .ok cs → ∀ c ∈ cs, Expression true c
  | [], cs, h => by
    cases h
    simp
  | e :: rest, cs, h => by
    rw [lowerExprs] at h
    obtain ⟨c, hc, h₁⟩ := bind_eq_ok_iff.1 h
    obtain ⟨more, hmore, hpure⟩ := bind_eq_ok_iff.1 h₁
    cases hpure
    exact forall_mem_cons.2 ⟨expression_lowerExpr cx e hc, expression_lowerExprs cx rest hmore⟩

end

/-! ## Statements -/

/-- Code that contributes statements to a block. -/
def Opens (c : Code) : Prop := ∀ d ∈ c.flatten, IsStatement d

theorem Opens.of_isStatement (h : IsStatement c) : Opens c := by
  rw [Opens, h.flatten_eq]
  exact forall_mem_singleton.2 h

theorem isStatement_flattenAll (h : ∀ c ∈ cs, Opens c) :
    ∀ d ∈ Code.flattenAll cs, IsStatement d := by
  induction cs with
  | nil => simp [Code.flattenAll]
  | cons c cs ih =>
    rw [forall_mem_cons] at h
    rw [Code.flattenAll]
    exact forall_mem_append.2 ⟨h.1, ih h.2⟩

theorem Opens.mkBlock (r : Option Origin) (h : ∀ c ∈ cs, Opens c) :
    Opens (.mkBlock r cs) := by
  have hstmts := isStatement_flattenAll h
  rw [Opens, Code.mkBlock, Code.flatten, (Code.Statement.flat hstmts).flattenAll]
  exact hstmts

theorem isStatement_assign {t v : Code} (r : Option Origin) (aug : Option String)
    (ht : t.isLookup = true ∧ Expression true t) (hv : Expression true v) :
    IsStatement (.assign r t v (.ofText? aug)) :=
  .assign ht hv

section Statements

variable {σ V : Type}

theorem ensures_lowerTarget (cx : Context) (e : Expr) :
    Ensures (lowerTarget cx e : Read σ Code) fun t => t.isLookup = true ∧ Expression true t := by
  refine .bind (.lift fun c hc => expression_lowerExpr cx e hc) fun c hc => ?_
  split
  · next hlookup => exact .pure ⟨hlookup, hc⟩
  · exact .throw

theorem ensures_lowerExpr (cx : Context) (e : Expr) :
    Ensures (liftM (lowerExpr cx e) : Read σ Code) (Expression true) :=
  .lift fun _ hc => expression_lowerExpr cx e hc

/-- What holds of each round of a loop holds of all of them together. -/
theorem ensures_rounds {cx : Context} {p : Position} {round : V → Read σ (List Code)}
    {P : Code → Prop} (h : ∀ v, Ensures (round v) fun cs => ∀ c ∈ cs, P c) (w : Walk σ V) :
    Ensures (w.rounds cx p round) fun cs => ∀ c ∈ cs, P c := by
  induction w with
  | done s =>
    rw [Walk.rounds]
    exact .bind (.trivial _) fun _ _ => .pure (by simp)
  | failed f =>
    rw [Walk.rounds]
    exact .throw
  | next v s more ih =>
    rw [Walk.rounds]
    refine .bind (.trivial _) fun _ _ => .bind (h v) fun own hown => ?_
    refine .bind (.trivial _) fun s _ => .bind (ih s) fun rest hrest => .pure ?_
    exact forall_mem_append.2 ⟨hown, hrest⟩

variable (I : Evaluator σ V) (lines : List String) (env : Names V)

mutual

theorem ensures_lowerStmt :
    ∀ (vars : Names V) (s : Stmt), Ensures (lowerStmt I lines env vars s) Opens
  | vars, .expr p e => by
    rw [lowerStmt.eq_def]
    dsimp only
    split
    · next q f args keywords =>
        refine .bind (.lift fun c hc => ?_) fun c hc => .pure (.of_isStatement (.bareCall hc))
        obtain ⟨r, id, cs, rfl, hcs⟩ := lowerExpr_call_eq_ok hc
        exact ⟨r, id, cs, rfl, trivial, expression_lowerExprs _ _ hcs⟩
    · exact .throw
  | vars, .assign p targets value => by
    rw [lowerStmt.eq_def]
    dsimp only
    split
    · next target =>
        refine .bind (ensures_lowerTarget _ _) fun left hleft => ?_
        refine .bind (ensures_lowerExpr _ _) fun right hright => .pure ?_
        exact .of_isStatement (isStatement_assign _ none hleft hright)
    · exact .throw
  | vars, .augment p target op value => by
    rw [lowerStmt]
    split
    · next symbol _ =>
        refine .bind (ensures_lowerTarget _ _) fun left hleft => ?_
        refine .bind (ensures_lowerExpr _ _) fun right hright => .pure ?_
        exact .of_isStatement (isStatement_assign _ (some symbol) hleft hright)
    · exact .throw
  | vars, .cond p test body orelse => by
    rw [lowerStmt]
    refine .bind (.trivial _) fun outcome _ => ?_
    split
    · exact .bind (ensures_lowerStmts vars body) fun cs hcs => .pure (.mkBlock _ hcs)
    · exact .bind (ensures_lowerStmts vars orelse) fun cs hcs => .pure (.mkBlock _ hcs)
    · refine .bind (ensures_lowerStmts vars body) fun holds hholds => ?_
      refine .bind (ensures_lowerStmts vars orelse) fun fails hfails => ?_
      refine .bind (ensures_lowerExpr _ _) fun t ht => .pure ?_
      exact .of_isStatement
        (.cond ht (isStatement_flattenAll hholds) (isStatement_flattenAll hfails))
  | vars, .loop p target iter body orelse => by
    rw [lowerStmt.eq_def]
    dsimp only
    split
    · next id _ =>
        refine .ite (fun _ => .throw_bind) fun _ => .bind (.trivial _) fun items _ => ?_
        refine .bind (.trivial _) fun s _ => ?_
        refine .bind (ensures_rounds (fun v => ensures_lowerRound _ id body) _) fun rounds
          hrounds => ?_
        exact .pure (.mkBlock _ hrounds)
    · exact .throw
  | vars, .ret p none => by
    rw [lowerStmt]
    exact .pure (.of_isStatement .bareRet)
  | vars, .ret p (some e) => by
    rw [lowerStmt]
    exact .bind (ensures_lowerExpr _ _) fun v hv => .pure (.of_isStatement (.ret hv))
  | vars, .pass p => by
    rw [lowerStmt]
    exact .pure (.of_isStatement .pass)
  | vars, .declare .. | vars, .function .. | vars, .cls .. | vars, .imports ..
  | vars, .importsFrom ..
  | vars, .global .. | vars, .other .. => by
    rw [lowerStmt]
    exact .throw

theorem ensures_lowerStmts : ∀ (vars : Names V) (stmts : List Stmt),
    Ensures (lowerStmts I lines env vars stmts) fun cs => ∀ c ∈ cs, Opens c
  | vars, [] => by
    rw [lowerStmts]
    exact .pure (by simp)
  | vars, s :: rest => by
    rw [lowerStmts]
    refine .bind (ensures_lowerStmt vars s) fun c hc => ?_
    refine .bind (ensures_lowerStmts vars rest) fun more hmore => .pure ?_
    exact forall_mem_cons.2 ⟨hc, hmore⟩

theorem ensures_lowerRound : ∀ (vars : Names V) (id : String) (stmts : List Stmt),
    Ensures (lowerRound I lines env vars id stmts) fun cs => ∀ c ∈ cs, Opens c
  | vars, id, [] => by
    rw [lowerRound]
    exact .pure (by simp)
  | vars, id, s :: rest => by
    rw [lowerRound]
    split
    · exact .throw
    · refine .bind (ensures_lowerStmt vars s) fun c hc => ?_
      refine .bind (ensures_lowerRound vars id rest) fun more hmore => .pure ?_
      exact forall_mem_cons.2 ⟨hc, hmore⟩

end

end Statements

end Reading

end DataDiagram
