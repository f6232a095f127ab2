import DataDiagram.Code.Print
import DataDiagram.Proofs.Code.Placeless
import DataDiagram.Proofs.Reading.Alike
import DataDiagram.Static.Evaluator
/-!
# Unrolled loops

In every round of a loop its variable is replaced by a constant wherever it is read.  The code is
the one that the body has for each value in turn where the variable is a static name with that
value, up to origins.
-/

namespace DataDiagram

open List

open Source (Expr Stmt)

namespace Reading

open Code (Matches)

/-! ## Expressions -/

/-- The expressions that have code. -/
def hasCode : Expr → Bool
  | .constant .. | .name .. | .unary .. | .binary .. | .bool .. | .compare .. | .call ..
  | .field .. | .subscript .. => true
  | _ => false

/-- A change of expressions that replaces some names by constants and keeps all other nodes, except
that constants may move. -/
structure Replaces {ι : Type} (bound : Expr.LoopVars) (change : ι → Expr → Expr)
    (below : ι → Position → ι) : Prop where
  constant : ∀ s p d, ∃ q, change s (.constant p d) = .constant q d
  name : ∀ s p id u, (∃ d q, bound.lookup id = some d ∧ change s (.name p id u) = .constant q d) ∨
    bound.lookup id = none ∧ change s (.name p id u) = .name p id u
  unary : ∀ s p o a, change s (.unary p o a) = .unary p o (change (below s p) a)
  binary : ∀ s p o a b,
    change s (.binary p o a b) = .binary p o (change (below s p) a) (change (below s p) b)
  bool : ∀ s p o es, change s (.bool p o es) = .bool p o (es.map (change (below s p)))
  compare : ∀ s p a os es, change s (.compare p a os es) =
    .compare p (change (below s p) a) os (es.map (change (below s p)))
  call : ∀ s p f es ks, ∃ ks', ks'.isEmpty = ks.isEmpty ∧ change s (.call p f es ks) =
    .call p (change (below s p) f) (es.map (change (below s p))) ks'
  field : ∀ s p a x u, change s (.field p a x u) = .field p (change (below s p) a) x u
  subscript : ∀ s p a b u,
    change s (.subscript p a b u) = .subscript p (change (below s p) a) (change (below s p) b) u
  callee : ∀ s f p id u, change s f = .name p id u → f = .name p id u
  other : ∀ cx s e c, hasCode e = false → lowerExpr cx (change s e) ≠ .ok c

theorem replaces_bind (bound : Expr.LoopVars) :
    Replaces bound (fun _ : Unit => Expr.bind bound) fun s _ => s where
  constant _ p d := ⟨p, rfl⟩
  name _ p id u := by
    rw [Expr.bind, Expr.change, Expr.bindNode]
    cases bound.lookup id with
    | none => exact .inr ⟨rfl, rfl⟩
    | some d => exact .inl ⟨d, none, rfl, rfl⟩
  unary _ _ _ _ := rfl
  binary _ _ _ _ _ := rfl
  bool _ p o es := congrArg (Expr.bool p o) (Expr.changeAll_eq_map _ _ _ es)
  compare _ p a os es :=
    congrArg (Expr.compare p (a.bind bound) os) (Expr.changeAll_eq_map _ _ _ es)
  call _ p f es ks :=
    ⟨_, by cases ks <;> rfl,
      congrArg (Expr.call p (f.bind bound) · _) (Expr.changeAll_eq_map _ _ _ es)⟩
  field _ _ _ _ _ := rfl
  subscript _ _ _ _ _ := rfl
  callee _ f p id u h := by
    cases f with
    | name q y w =>
      rw [Expr.bind, Expr.change, Expr.bindNode] at h
      split at h
      · cases h
      · exact h
    | _ => cases h
  other cx _ e c he h := by
    cases e <;> first
      | (simp [hasCode] at he; done)
      | simp [Expr.bind, Expr.change, Expr.bindNode, lowerExpr] at h

theorem replaces_placed (bound : Expr.LoopVars) :
    Replaces bound (fun p e => (Expr.bind bound e).placed p) fun _ p => p where
  constant s p d := ⟨some (p.getD s), rfl⟩
  name s p id u := by
    rcases (replaces_bind bound).name () p id u with ⟨d, q, hd, heq⟩ | ⟨hnone, heq⟩
    · exact .inl ⟨d, some (q.getD s), hd, by rw [heq]; rfl⟩
    · exact .inr ⟨hnone, by rw [heq]; rfl⟩
  unary _ _ _ _ := rfl
  binary _ _ _ _ _ := rfl
  bool s p o es := by
    rw [(replaces_bind bound).bool ()]
    refine (congrArg (Expr.bool p o) (Expr.changeAll_eq_map _ _ _ _)).trans ?_
    rw [map_map]
    rfl
  compare s p a os es := by
    rw [(replaces_bind bound).compare ()]
    refine (congrArg (Expr.compare p _ os) (Expr.changeAll_eq_map _ _ _ _)).trans ?_
    rw [map_map]
    rfl
  call s p f es ks := by
    obtain ⟨ks', hks, heq⟩ := (replaces_bind bound).call () p f es ks
    rw [heq]
    refine ⟨Expr.changeNamed Expr.placedNode (fun _ p => p) p ks', ?_,
      (congrArg (Expr.call p _ · _) (Expr.changeAll_eq_map _ _ _ _)).trans ?_⟩
    · rw [← hks]
      cases ks' <;> rfl
    · rw [map_map]
      rfl
  field _ _ _ _ _ := rfl
  subscript _ _ _ _ _ := rfl
  callee s f p id u h := by
    refine (replaces_bind bound).callee () f p id u ?_
    generalize f.bind bound = e at h ⊢
    cases e with
    | name => exact h
    | _ => cases h
  other cx s e c he h := by
    cases e <;> first
      | (simp [hasCode] at he; done)
      | simp [Expr.bind, Expr.placed, Expr.change, Expr.bindNode, Expr.placedNode, lowerExpr] at h

/-- Two ways to make a name a constant: it is replaced, or it is a static name. -/
structure Rebinds (x : String) (bound bound' : Expr.LoopVars) (cx cx' : Context) : Prop where
  kept : ∀ y d, bound'.lookup y = some d → bound.lookup y = some d
  static : bound'.lookup x = none → ∃ d n, bound.lookup x = some d ∧ d.int? = some n ∧
    cx'.constant? x = some d
  others : ∀ y, y ≠ x → bound'.lookup y = none →
    bound.lookup y = none ∧ cx'.constant? y = cx.constant? y

section Expressions

variable {ι κ : Type} {x : String} {bound bound' : Expr.LoopVars} {cx cx' : Context}
  {change : ι → Expr → Expr} {below : ι → Position → ι} {change' : κ → Expr → Expr}
  {below' : κ → Position → κ}

theorem Rebinds.lookup_eq_none (h : Rebinds x bound bound' cx cx') {y : String}
    (hy : bound.lookup y = none) : bound'.lookup y = none ∧ y ≠ x ∧
      cx'.constant? y = cx.constant? y := by
  have hnone : bound'.lookup y = none := by
    cases hd : bound'.lookup y with
    | none => rfl
    | some d => rw [h.kept y d hd] at hy; cases hy
  have hne : y ≠ x := by
    rintro rfl
    obtain ⟨d, n, hd, -⟩ := h.static hnone
    rw [hd] at hy
    cases hy
  exact ⟨hnone, hne, (h.others y hne hnone).2⟩

theorem matches_constant (cx cx' : Context) {p q : Option Position} {d : Datum} {c : Code}
    (h : lowerExpr cx (.constant p d) = .ok c) :
    ∃ c', lowerExpr cx' (.constant q d) = .ok c' ∧ Matches x c c' := by
  rw [lowerExpr] at h ⊢
  split at h
  · cases h
    exact ⟨_, rfl, rfl, not_mem_nil⟩
  · cases h

theorem matches_name (h : Rebinds x bound bound' cx cx') (hX : Replaces bound change below)
    (hY : Replaces bound' change' below') {s : ι} {t : κ} {p : Position} {id : String}
    {u : Source.Usage} {c : Code} (hc : lowerExpr cx (change s (.name p id u)) = .ok c) :
    ∃ c', lowerExpr cx' (change' t (.name p id u)) = .ok c' ∧ Matches x c c' := by
  rcases hY.name t p id u with ⟨d, q, hd, heq'⟩ | ⟨hnone, heq'⟩
  · rcases hX.name s p id u with ⟨e, r, he, heq⟩ | ⟨hnone, -⟩
    · obtain rfl : e = d := Option.some.inj (he.symm.trans (h.kept id d hd))
      rw [heq] at hc
      rw [heq']
      exact matches_constant cx cx' hc
    · rw [h.kept id d hd] at hnone
      cases hnone
  · rw [heq']
    rcases hX.name s p id u with ⟨e, r, he, heq⟩ | ⟨hnone', heq⟩
    · obtain rfl : id = x := by
        by_contra hne
        rw [(h.others id hne hnone).1] at he
        cases he
      obtain ⟨d, n, hd, hn, hstatic⟩ := h.static hnone
      obtain rfl : e = d := Option.some.inj (he.symm.trans hd)
      rw [heq, lowerExpr, hn] at hc
      cases hc
      refine ⟨.constOf (some (cx'.origin (some p))) e, ?_, rfl, not_mem_nil⟩
      rw [lowerExpr, hstatic]
    · obtain ⟨-, hne, hconstant⟩ := h.lookup_eq_none hnone'
      rw [heq, lowerExpr] at hc
      rw [lowerExpr, hconstant]
      cases hd : cx.constant? id with
      | some d =>
        rw [hd] at hc
        cases hc
        exact ⟨_, rfl, rfl, not_mem_nil⟩
      | none =>
        rw [hd] at hc
        cases hc
        exact ⟨_, rfl, rfl, by simpa [Code.mentioned, Code.texts] using hne.symm⟩

theorem matches_comparePairs {r r' : Option Origin} {os : List Source.CompareOp} :
    ∀ {cs cs' pairs : List Code}, Forall₂ (Matches x) cs cs' → comparePairs r os cs = .ok pairs →
      ∃ pairs', comparePairs r' os cs' = .ok pairs' ∧ Forall₂ (Matches x) pairs pairs' := by
  induction os with
  | nil =>
    intro cs cs' pairs _ h
    cases h
    exact ⟨[], by rw [comparePairs.eq_def], .nil⟩
  | cons o os ih =>
    intro cs cs' pairs hcs h
    cases hcs with
    | nil =>
      cases h
      exact ⟨[], by rw [comparePairs.eq_def], .nil⟩
    | cons ha hrest =>
      cases hrest with
      | nil =>
        cases h
        exact ⟨[], by rw [comparePairs.eq_def], .nil⟩
      | cons hb hrest =>
        rw [comparePairs] at h ⊢
        split at h
        · cases h
        · next symbol hsymbol =>
          obtain ⟨more, hmore, hpure⟩ := bind_eq_ok_iff.1 h
          obtain ⟨more', hmore', hmatches⟩ := ih (.cons hb hrest) hmore
          cases hpure
          exact ⟨_, by rw [hmore']; rfl, .cons (.opOf (.cons ha (.cons hb .nil))) hmatches⟩

theorem matches_conjunction {r r' : Option Origin} {cs cs' : List Code}
    (h : Forall₂ (Matches x) cs cs') : Matches x (conjunction r cs) (conjunction r' cs') := by
  cases h with
  | nil => exact .opOf .nil
  | cons ha hrest =>
    cases hrest with
    | nil => exact ha
    | cons hb hrest => exact .opOf (.cons ha (.cons hb hrest))

mutual

/-- The code of an expression where a name is replaced is that where it is a static name. -/
theorem matches_lowerExpr (h : Rebinds x bound bound' cx cx')
    (hX : Replaces bound change below) (hY : Replaces bound' change' below') :
    ∀ (e : Expr) (s : ι) (t : κ) (c : Code),
    lowerExpr cx (change s e) = .ok c →
      ∃ c', lowerExpr cx' (change' t e) = .ok c' ∧ Matches x c c'
  | .constant p d, s, t, c, hc => by
    obtain ⟨q, hq⟩ := hX.constant s p d
    obtain ⟨q', hq'⟩ := hY.constant t p d
    rw [hq] at hc
    rw [hq']
    exact matches_constant cx cx' hc
  | .name p id u, s, t, c, hc => matches_name h hX hY hc
  | .unary p o a, s, t, c, hc => by
    rw [hX.unary, lowerExpr.eq_def] at hc
    rw [hY.unary, lowerExpr.eq_def]
    cases o with
    | invert => cases hc
    | plus =>
      obtain ⟨b, hb, hpure⟩ := bind_eq_ok_iff.1 hc
      obtain ⟨b', hb', hmatch⟩ := matches_lowerExpr h hX hY a _ (below' t p) b hb
      cases hpure
      exact ⟨_, by dsimp only; rw [hb']; rfl, hmatch.withRef⟩
    | minus | logicalNot =>
      obtain ⟨b, hb, hpure⟩ := bind_eq_ok_iff.1 hc
      obtain ⟨b', hb', hmatch⟩ := matches_lowerExpr h hX hY a _ (below' t p) b hb
      cases hpure
      exact ⟨_, by dsimp only; rw [hb']; rfl, .opOf (.cons hmatch .nil)⟩
  | .binary p o a b, s, t, c, hc => by
    rw [hX.binary, lowerExpr] at hc
    rw [hY.binary, lowerExpr]
    cases hsymbol : binarySymbol? o with
    | none =>
      rw [hsymbol] at hc
      cases hc
    | some symbol =>
      rw [hsymbol] at hc
      obtain ⟨l, hl, hc⟩ := bind_eq_ok_iff.1 hc
      obtain ⟨r, hr, hpure⟩ := bind_eq_ok_iff.1 hc
      obtain ⟨l', hl', hleft⟩ := matches_lowerExpr h hX hY a _ (below' t p) l hl
      obtain ⟨r', hr', hright⟩ := matches_lowerExpr h hX hY b _ (below' t p) r hr
      cases hpure
      exact ⟨_, by dsimp only; rw [hl', hr']; rfl, .opOf (.cons hleft (.cons hright .nil))⟩
  | .bool p o es, s, t, c, hc => by
    rw [hX.bool, lowerExpr] at hc
    rw [hY.bool, lowerExpr]
    obtain ⟨cs, hcs, hpure⟩ := bind_eq_ok_iff.1 hc
    obtain ⟨cs', hcs', hmatches⟩ := matches_lowerExprs h hX hY es _ (below' t p) cs hcs
    cases hpure
    exact ⟨_, by rw [hcs']; rfl, .opOf hmatches⟩
  | .compare p a os es, s, t, c, hc => by
    rw [hX.compare, lowerExpr] at hc
    rw [hY.compare, lowerExpr]
    obtain ⟨l, hl, hc⟩ := bind_eq_ok_iff.1 hc
    obtain ⟨rs, hrs, hc⟩ := bind_eq_ok_iff.1 hc
    obtain ⟨pairs, hpairs, hpure⟩ := bind_eq_ok_iff.1 hc
    obtain ⟨l', hl', hleft⟩ := matches_lowerExpr h hX hY a _ (below' t p) l hl
    obtain ⟨rs', hrs', hrights⟩ := matches_lowerExprs h hX hY es _ (below' t p) rs hrs
    obtain ⟨pairs', hpairs', hmatches⟩ :=
      @matches_comparePairs x _ (some (cx'.origin (some p))) os _ _ _ (.cons hleft hrights) hpairs
    cases hpure
    refine ⟨conjunction (some (cx'.origin (some p))) pairs', ?_, matches_conjunction hmatches⟩
    simp only [hl', hrs', bind, Except.bind, hpairs']
    rfl
  | .call p f es ks, s, t, c, hc => by
    obtain ⟨ls, hls, heq⟩ := hX.call s p f es ks
    obtain ⟨ls', hls', heq'⟩ := hY.call t p f es ks
    rw [heq, lowerExpr.eq_def] at hc
    rw [heq', lowerExpr.eq_def]
    dsimp only at hc ⊢
    rw [hls] at hc
    rw [hls']
    split at hc
    · cases hc
    · next hempty =>
      rw [if_neg hempty]
      split at hc
      · next q id u hf =>
        have hcallee := hX.callee _ f q id u hf
        subst hcallee
        have hnone : bound.lookup id = none := by
          rcases hX.name (below s p) q id u with ⟨d, r, -, hd⟩ | ⟨hnone, -⟩
          · rw [hd] at hf
            cases hf
          · exact hnone
        have hf' : change' (below' t p) (.name q id u) = .name q id u := by
          rcases hY.name (below' t p) q id u with ⟨d, r, hd, -⟩ | ⟨-, hf'⟩
          · rw [(h.lookup_eq_none hnone).1] at hd
            cases hd
          · exact hf'
        obtain ⟨cs, hcs, hpure⟩ := bind_eq_ok_iff.1 hc
        obtain ⟨cs', hcs', hmatches⟩ := matches_lowerExprs h hX hY es _ (below' t p) cs hcs
        cases hpure
        rw [hf']
        exact ⟨_, by dsimp only; rw [hcs']; rfl, .callOf hmatches⟩
      · cases hc
  | .field p a y u, s, t, c, hc => by
    rw [hX.field, lowerExpr] at hc
    rw [hY.field, lowerExpr]
    obtain ⟨b, hb, hpure⟩ := bind_eq_ok_iff.1 hc
    obtain ⟨b', hb', hmatch⟩ := matches_lowerExpr h hX hY a _ (below' t p) b hb
    cases hpure
    exact ⟨_, by rw [hb']; rfl, hmatch.attrOf⟩
  | .subscript p a b u, s, t, c, hc => by
    rw [hX.subscript, lowerExpr] at hc
    rw [hY.subscript, lowerExpr]
    obtain ⟨l, hl, hc⟩ := bind_eq_ok_iff.1 hc
    obtain ⟨r, hr, hpure⟩ := bind_eq_ok_iff.1 hc
    obtain ⟨l', hl', hleft⟩ := matches_lowerExpr h hX hY a _ (below' t p) l hl
    obtain ⟨r', hr', hright⟩ := matches_lowerExpr h hX hY b _ (below' t p) r hr
    cases hpure
    exact ⟨_, by rw [hl', hr']; rfl, hleft.item hright⟩
  | .slice .., s, _, c, hc | .tuple .., s, _, c, hc | .list .., s, _, c, hc
  | .starred .., s, _, c, hc | .conditional .., s, _, c, hc | .lambda .., s, _, c, hc
  | .set .., s, _, c, hc | .dict .., s, _, c, hc | .comprehension .., s, _, c, hc
  | .await .., s, _, c, hc | .yield .., s, _, c, hc | .yieldFrom .., s, _, c, hc
  | .joined .., s, _, c, hc | .formatted .., s, _, c, hc | .named .., s, _, c, hc =>
    absurd hc (hX.other cx s _ c rfl)

theorem matches_lowerExprs (h : Rebinds x bound bound' cx cx')
    (hX : Replaces bound change below) (hY : Replaces bound' change' below') :
    ∀ (es : List Expr) (s : ι) (t : κ) (cs : List Code),
    lowerExprs cx (es.map (change s)) = .ok cs →
      ∃ cs', lowerExprs cx' (es.map (change' t)) = .ok cs' ∧ Forall₂ (Matches x) cs cs'
  | [], _, _, cs, hcs => by
    cases hcs
    exact ⟨[], rfl, .nil⟩
  | e :: es, s, t, cs, hcs => by
    rw [map_cons, lowerExprs] at hcs
    rw [map_cons, lowerExprs]
    obtain ⟨c, hc, hcs⟩ := bind_eq_ok_iff.1 hcs
    obtain ⟨more, hmore, hpure⟩ := bind_eq_ok_iff.1 hcs
    obtain ⟨c', hc', hmatch⟩ := matches_lowerExpr h hX hY e s t c hc
    obtain ⟨more', hmore', hmatches⟩ := matches_lowerExprs h hX hY es s t more hmore
    cases hpure
    exact ⟨_, by rw [hc', hmore']; rfl, .cons hmatch hmatches⟩

end

end Expressions

/-! ## Statements -/

section Statements

variable {σ V α β γ δ : Type}

/-- Whenever the first of two computations succeeds, the second one does so as well, with the same
state and a result that fits. -/
def Refines (Q : α → β → Prop) (y : Read σ α) (z : Read σ β) : Prop :=
  ∀ m a n, y.run m = (.ok a, n) → ∃ b, z.run m = (.ok b, n) ∧ Q a b

namespace Refines

variable {Q : α → β → Prop} {P : γ → δ → Prop} {y : Read σ α} {z : Read σ β}
  {f : α → Read σ γ} {g : β → Read σ δ}

theorem pure {a : α} {b : β} (h : Q a b) : Refines Q (Pure.pure a : Read σ α) (Pure.pure b) := by
  intro m a n hrun
  cases hrun
  exact ⟨b, rfl, h⟩

theorem throw {e : ReadError} : Refines Q (throw e : Read σ α) z := fun _ _ _ hrun => by
  cases hrun

theorem throw_bind {e : ReadError} {g : Read σ δ} :
    Refines P (MonadExcept.throw e >>= f) g := fun _ _ _ hrun => by
  cases hrun

theorem bind (hy : Refines Q y z) (hf : ∀ a b, Q a b → Refines P (f a) (g b)) :
    Refines P (y >>= f) (z >>= g) := by
  intro m c n hrun
  obtain ⟨a, k, ha, hc⟩ := exists_of_run_bind_eq_ok hrun
  obtain ⟨b, hb, hab⟩ := hy m a k ha
  obtain ⟨d, hd, hcd⟩ := hf a b hab k c n hc
  exact ⟨d, (run_bind_ok hb).trans hd, hcd⟩

theorem lift {y : Except ReadError α} {z : Except ReadError β}
    (h : ∀ a, y = .ok a → ∃ b, z = .ok b ∧ Q a b) :
    Refines Q (liftM y : Read σ α) (liftM z) := by
  intro m a n hrun
  cases hrun
  obtain ⟨b, rfl, hb⟩ := h a rfl
  exact ⟨b, rfl, hb⟩

/-- What is met on the way is the same if it does not depend on the context. -/
theorem lift_bind {y : StateM σ γ} {f : γ → Read σ α} {g : γ → Read σ β}
    (hf : ∀ c, Refines Q (f c) (g c)) :
    Refines Q ((liftM y : Read σ γ) >>= f) ((liftM y : Read σ γ) >>= g) :=
  fun m a n hrun => hf (y.run m).1 (y.run m).2 a n hrun

theorem ite {c : Prop} [Decidable c] {y' : Read σ α} {z' : Read σ β} (hy : c → Refines Q y z)
    (hz : ¬c → Refines Q y' z') : Refines Q (if c then y else y') (if c then z else z') := by
  split
  · exact hy ‹_›
  · exact hz ‹_›

theorem set_bind {s : σ} {f : PUnit → Read σ α} {g : PUnit → Read σ β}
    (hf : ∀ u, Refines Q (f u) (g u)) : Refines Q (set s >>= f) (set s >>= g) :=
  fun _ a n hrun => hf _ s a n hrun

theorem get_bind {f : σ → Read σ α} {g : σ → Read σ β} (hf : ∀ m, Refines Q (f m) (g m)) :
    Refines Q (get >>= f) (get >>= g) := fun m a n hrun => hf m m a n hrun

end Refines

theorem refines_static (cx cx' : Context) (p q q' : Position) (y : StateM σ (Evaluated V)) :
    Refines Eq (static cx p q y) (static cx' p q' y) := by
  refine .lift_bind fun outcome => ?_
  cases outcome with
  | value v => exact .pure rfl
  | raised text => exact .throw
  | left f => exact .throw

theorem refines_orFail (cx cx' : Context) (p : Position) (y : StateM σ (Except Failure α)) :
    Refines Eq (orFail cx p y) (orFail cx' p y) := by
  refine .lift_bind fun outcome => ?_
  cases outcome with
  | ok a => exact .pure rfl
  | error f => exact .throw

theorem refines_rounds {Q : α → β → Prop} (cx cx' : Context) (p : Position)
    {round : V → Read σ (List α)} {round' : V → Read σ (List β)}
    (hround : ∀ v, Refines (Forall₂ Q) (round v) (round' v)) (w : Walk σ V) :
    Refines (Forall₂ Q) (w.rounds cx p round) (w.rounds cx' p round') := by
  induction w with
  | done s =>
    rw [Walk.rounds, Walk.rounds]
    exact .set_bind fun _ => .pure .nil
  | failed f =>
    rw [Walk.rounds]
    exact .throw
  | next v s more ih =>
    rw [Walk.rounds, Walk.rounds]
    refine .set_bind fun _ => (hround v).bind fun own own' hown => .get_bind fun m => ?_
    exact (ih m).bind fun rest rest' hrest => .pure (rel_append hown hrest)

/-- It makes no difference to what some expressions evaluate to whether a name is replaced by a
value, in whatever loops they stand, or is a static name with that value. -/
def Binds (I : Evaluator σ V) (env vars : Names V) (x : String) (v : V) (asked : List Expr) :
    Prop :=
  ∀ e ∈ asked, ∀ inner : Names V,
    I.evaluate env (inner ++ (x, v) :: vars) e = I.evaluate (env.put x v) (inner ++ vars) e

theorem lookup_put (env : Names V) (x y : String) (v : V) :
    (env.put x v).lookup y = if y = x then some v else env.lookup y := by
  induction env with
  | nil => by_cases h : y = x <;> simp [Names.put, lookup_cons, h, beq_eq_false_iff_ne.2]
  | cons entry env ih =>
    obtain ⟨z, w⟩ := entry
    rw [Names.put]
    by_cases hz : z = x
    · subst hz
      by_cases h : y = z <;> simp [lookup_cons, h, beq_eq_false_iff_ne.2]
    · by_cases h : y = z
      · subst h
        simp [hz]
      · simp [lookup_cons, hz, beq_eq_false_iff_ne.2 h, ih]

variable {I : Evaluator σ V} {lines : List String} {env vars : Names V} {x : String} {v : V}
  {d : Datum}

theorem rebinds (hv : I.constant? v = some d) (hx : vars.lookup x = none) (inner : Names V) :
    Rebinds x (I.loopVars (inner ++ (x, v) :: vars)) (I.loopVars (inner ++ vars))
      (I.context lines env) (I.context lines (env.put x v)) := by
  have hlookup (names : Names V) (y : String) : (I.loopVars names).lookup y =
      (names.lookup y).map fun w => (I.constant? w).getD .none := by
    induction names with
    | nil => rfl
    | cons entry names ih =>
      obtain ⟨z, w⟩ := entry
      by_cases h : y = z
      · simp [Evaluator.loopVars, h]
      · simpa [Evaluator.loopVars, lookup_cons, beq_eq_false_iff_ne.2 h] using ih
  refine ⟨fun y c hc => ?_, fun hnone => ?_, fun y hy hnone => ?_⟩
  · rw [hlookup, lookup_append] at hc ⊢
    have hne : inner.lookup y = none → y ≠ x := by
      rintro hinner rfl
      rw [hinner, hx] at hc
      cases hc
    cases hinner : inner.lookup y with
    | none =>
      rw [hinner] at hc
      rw [lookup_cons, beq_eq_false_iff_ne.2 (hne hinner)]
      exact hc
    | some w =>
      rw [hinner] at hc
      exact hc
  · rw [hlookup, lookup_append, Option.map_eq_none_iff, Option.or_eq_none_iff] at hnone
    obtain ⟨n, hn⟩ := I.integral v d hv
    refine ⟨d, n, ?_, hn, ?_⟩
    · rw [hlookup, lookup_append, hnone.1, lookup_cons, beq_self_eq_true]
      simp [hv]
    · simp [Evaluator.context, lookup_put, hv]
  · rw [hlookup, lookup_append, Option.map_eq_none_iff, Option.or_eq_none_iff] at hnone
    refine ⟨?_, ?_⟩
    · rw [hlookup, lookup_append, hnone.1, lookup_cons, beq_eq_false_iff_ne.2 hy]
      simp [hnone.2]
    · simp [Evaluator.context, lookup_put, hy]

theorem refines_lowerExpr (hv : I.constant? v = some d) (hx : vars.lookup x = none)
    (inner : Names V) (e : Expr) : Refines (Matches x)
    (liftM (lowerExpr (I.context lines env) (e.bind (I.loopVars (inner ++ (x, v) :: vars)))) :
      Read σ Code)
    (liftM (lowerExpr (I.context lines (env.put x v)) (e.bind (I.loopVars (inner ++ vars))))) :=
  .lift fun c hc => matches_lowerExpr (rebinds hv hx inner) (replaces_bind _) (replaces_bind _) e
    () () c hc

theorem refines_lowerTarget (hv : I.constant? v = some d) (hx : vars.lookup x = none)
    (inner : Names V) (e : Expr) : Refines (Matches x)
    (lowerTarget (I.context lines env) (e.bind (I.loopVars (inner ++ (x, v) :: vars))) :
      Read σ Code)
    (lowerTarget (I.context lines (env.put x v)) (e.bind (I.loopVars (inner ++ vars)))) := by
  refine (refines_lowerExpr hv hx inner e).bind fun c c' h => ?_
  rw [h.isLookup_eq]
  exact .ite (fun _ => .pure h) fun _ => .throw

theorem refines_staticTest (p : Position) (inner : Names V) {e : Expr}
    (h : Binds I env vars x v [e]) :
    Refines Eq (staticTest I lines env p (inner ++ (x, v) :: vars) e)
      (staticTest I lines (env.put x v) p (inner ++ vars) e) := by
  rw [staticTest, staticTest, h e mem_cons_self inner]
  refine .lift_bind fun outcome => ?_
  cases outcome with
  | value w =>
    refine (refines_orFail _ _ p (I.truth w)).bind fun b b' hb => .pure (congrArg some hb)
  | raised text => exact .pure rfl
  | left f => cases f <;> first | exact .pure rfl | exact .throw

mutual

theorem refines_lowerStmt (hv : I.constant? v = some d) (hx : vars.lookup x = none) :
    ∀ (inner : Names V) (s : Stmt), Binds I env vars x v (askedBy s) → Refines (Matches x)
    (lowerStmt I lines env (inner ++ (x, v) :: vars) s)
      (lowerStmt I lines (env.put x v) (inner ++ vars) s)
  | inner, .expr p e, _ => by
    rw [lowerStmt.eq_def, lowerStmt.eq_def]
    dsimp only
    split
    · exact (refines_lowerExpr hv hx inner _).bind fun c c' h => .pure h.bareCall
    · exact .throw
  | inner, .assign p targets value, _ => by
    rw [lowerStmt.eq_def, lowerStmt.eq_def]
    dsimp only
    split
    · exact (refines_lowerTarget hv hx inner _).bind fun left left' hleft =>
        (refines_lowerExpr hv hx inner value).bind fun right right' hright =>
          .pure (hleft.assign hright none)
    · exact .throw
  | inner, .augment p target op value, _ => by
    rw [lowerStmt, lowerStmt]
    split
    · next symbol _ =>
      exact (refines_lowerTarget hv hx inner target).bind fun left left' hleft =>
        (refines_lowerExpr hv hx inner value).bind fun right right' hright =>
          .pure (hleft.assign hright (some symbol))
    · exact .throw
  | inner, .cond p test body orelse, h => by
    have hbody := refines_lowerStmts hv hx inner body fun e he => h e (by simp [askedBy, he])
    have horelse := refines_lowerStmts hv hx inner orelse fun e he => h e (by simp [askedBy, he])
    have htest : Binds I env vars x v [test] := fun e he => h e (by simp_all [askedBy])
    rw [lowerStmt, lowerStmt]
    refine (refines_staticTest p inner htest).bind fun outcome outcome' hsame => ?_
    subst hsame
    split
    · exact hbody.bind fun cs cs' hcs => .pure (.mkBlock hcs)
    · exact horelse.bind fun cs cs' hcs => .pure (.mkBlock hcs)
    · refine hbody.bind fun holds holds' hholds => horelse.bind fun fails fails' hfails => ?_
      refine (Refines.lift fun c hc => matches_lowerExpr (rebinds hv hx inner)
        (replaces_placed _) (replaces_placed _) test startPosition startPosition c hc).bind
          fun c c' hc => ?_
      exact .pure (.cond hc (.mkBlock hholds) (.mkBlock hfails))
  | inner, .loop p target iter body orelse, h => by
    rw [lowerStmt.eq_def, lowerStmt.eq_def]
    dsimp only
    split
    · next id _ =>
      have hbody (w : V) := refines_lowerRound hv hx ((id, w) :: inner) id body
        fun e he => h e (by simp [askedBy, he])
      refine .ite (fun _ => .throw_bind) fun _ => ?_
      rw [h iter (by simp [askedBy]) inner]
      refine (refines_static _ _ p _ _ _).bind fun w w' hw => ?_
      subst hw
      refine .get_bind fun m => ?_
      exact (refines_rounds _ _ p hbody (I.walk w m)).bind fun cs cs' hcs => .pure (.mkBlock hcs)
    · exact .throw
  | inner, .ret p none, _ => by
    rw [lowerStmt, lowerStmt]
    exact .pure ⟨rfl, not_mem_nil⟩
  | inner, .ret p (some e), _ => by
    rw [lowerStmt, lowerStmt]
    exact (refines_lowerExpr hv hx inner e).bind fun c c' h => .pure h.ret
  | inner, .pass p, _ => by
    rw [lowerStmt, lowerStmt]
    exact .pure ⟨rfl, not_mem_nil⟩
  | _, .declare .., _ | _, .function .., _ | _, .cls .., _ | _, .imports .., _
  | _, .importsFrom .., _ | _, .global .., _ | _, .other .., _ => by
    rw [lowerStmt]
    exact .throw

theorem refines_lowerStmts (hv : I.constant? v = some d) (hx : vars.lookup x = none) :
    ∀ (inner : Names V) (stmts : List Stmt),
    Binds I env vars x v (askedByAll stmts) →
      Refines (Forall₂ (Matches x)) (lowerStmts I lines env (inner ++ (x, v) :: vars) stmts)
        (lowerStmts I lines (env.put x v) (inner ++ vars) stmts)
  | inner, [], _ => by
    rw [lowerStmts, lowerStmts]
    exact .pure .nil
  | inner, s :: rest, h => by
    have hs := refines_lowerStmt hv hx inner s fun e he => h e (by simp [askedByAll, he])
    have hrest := refines_lowerStmts hv hx inner rest fun e he => h e (by simp [askedByAll, he])
    rw [lowerStmts, lowerStmts]
    exact hs.bind fun c c' hc => hrest.bind fun cs cs' hcs => .pure (.cons hc hcs)

theorem refines_lowerRound (hv : I.constant? v = some d) (hx : vars.lookup x = none) :
    ∀ (inner : Names V) (id : String) (stmts : List Stmt),
    Binds I env vars x v (askedByAll stmts) →
      Refines (Forall₂ (Matches x)) (lowerRound I lines env (inner ++ (x, v) :: vars) id stmts)
        (lowerRound I lines (env.put x v) (inner ++ vars) id stmts)
  | inner, id, [], _ => by
    rw [lowerRound, lowerRound]
    exact .pure .nil
  | inner, id, s :: rest, h => by
    have hs := refines_lowerStmt hv hx inner s fun e he => h e (by simp [askedByAll, he])
    have hrest := refines_lowerRound hv hx inner id rest fun e he => h e (by simp [askedByAll, he])
    rw [lowerRound, lowerRound]
    split
    · exact .throw
    · exact hs.bind fun c c' hc => hrest.bind fun cs cs' hcs => .pure (.cons hc hcs)

end

end Statements

/-! ## Loops -/

section Loops

variable {σ V : Type} {I : Evaluator σ V} {lines : List String} {env vars : Names V}

/-- A round in which the variable of the loop is not written is read like any statements. -/
theorem refines_round (id : String) (stmts : List Stmt) :
    Refines Eq (lowerRound I lines env vars id stmts) (lowerStmts I lines env vars stmts) := by
  induction stmts with
  | nil =>
    rw [lowerRound, lowerStmts]
    exact .pure rfl
  | cons s rest ih =>
    rw [lowerRound, lowerStmts]
    split
    · exact .throw
    · refine Refines.bind (Q := Eq) (fun m c n hc => ⟨c, hc, rfl⟩) fun c c' hc => ?_
      exact ih.bind fun cs cs' hcs => .pure (by rw [hc, hcs])

theorem exists_mapM_eq {Q : Code → Code → Prop} (cx : Context) (p : Position)
    {round round' : V → Read σ (List Code)} {vs : List V}
    (hround : ∀ v ∈ vs, Refines (Forall₂ Q) (round v) (round' v)) {s m n : σ} {cs : List Code}
    (h : ((Walk.ofList s vs).rounds cx p round).run m = (.ok cs, n)) :
    ∃ css, (vs.mapM round').run s = (.ok css, n) ∧ Forall₂ Q cs css.flatten := by
  induction vs generalizing s m cs with
  | nil =>
    cases h
    exact ⟨[], rfl, .nil⟩
  | cons v vs ih =>
    rw [forall_mem_cons] at hround
    have hstep : ((round v >>= fun own => get >>= fun s =>
        (Walk.ofList s vs).rounds cx p round >>= fun rest => pure (own ++ rest)).run s) =
        (.ok cs, n) := h
    obtain ⟨own, k, hown, hstep⟩ := exists_of_run_bind_eq_ok hstep
    obtain ⟨rest, l, hrest, hpure⟩ := exists_of_run_bind_eq_ok (x := Walk.rounds cx p round _) hstep
    obtain ⟨own', hown', hmatch⟩ := hround.1 s own k hown
    cases hpure
    obtain ⟨css, hcss, hmatches⟩ := ih hround.2 hrest
    refine ⟨own' :: css, ?_, ?_⟩
    · rw [mapM_cons, run_bind_ok hown', run_bind_ok hcss]
      rfl
    · rw [flatten_cons]
      exact rel_append hmatch hmatches

theorem run_static {cx : Context} {p part : Position} {y : StateM σ (Evaluated V)} {m k : σ} {w : V}
    (h : y.run m = (.value w, k)) : (static cx p part y).run m = (.ok w, k) := by
  have hlift : (liftM y : Read σ (Evaluated V)).run m = (.ok (.value w), k) :=
    congrArg (fun r : Evaluated V × σ => (Except.ok r.1, r.2)) h
  unfold static
  rw [run_bind_ok hlift]
  rfl

/-- An evaluator that knows constants, tuples of them and the values of names. -/
def plainEvaluator : Evaluator Unit Datum where
  start := ()
  evaluate env vars e := pure <| match e with
    | .constant _ d => .value d
    | .tuple _ items _ => .value (.tuple (items.filterMap fun
      | .constant _ d => some d
      | _ => none))
    | .name _ id _ => ((vars.lookup id).or (env.lookup id)).elim (.raised "no value") .value
    | _ => .raised "no constant"
  define _ _ name := pure (.value (.str name))
  record v := pure (.ok v)
  truth v := pure (.ok v.truth)
  walk
    | .tuple items, s => .ofList s items
    | _, s => .done s
  isNone v := v matches .none
  constant? v := v.int?.map fun _ => v
  datum _ v := v
  datum_eq_none_iff _ v := by cases v <;> simp
  integral v d h := by
    obtain ⟨n, hn, rfl⟩ := Option.map_eq_some_iff.1 h
    exact ⟨n, hn⟩

/-- The place of all parts of the statements below. -/
def loopPlace : Position := ⟨1, 0⟩

/-- A number that is assigned to a name. -/
def loopAssign (n : Int) : Stmt :=
  .assign loopPlace [.name loopPlace "x" .store] (.constant (some loopPlace) (.int n))

/-- A choice that depends on the variable of a loop. -/
def loopChoice (test : Expr) : Stmt := .cond loopPlace test [loopAssign 1] [loopAssign 2]

/-- The name of the variable of a loop where it is read. -/
def loopName : Expr := .name loopPlace "i" .load

def countingLoop : Stmt :=
  .loop loopPlace (.name loopPlace "i" .store)
    (.tuple loopPlace [.constant (some loopPlace) (.int 0), .constant (some loopPlace) (.int 1)]
      .load) [loopChoice loopName] []

/-- Whether the variable is the very number 257. -/
def identityTest : Expr :=
  .compare loopPlace loopName [.same] [.constant (some loopPlace) (.int 257)]

def identityIter : Expr := .tuple loopPlace [.constant (some loopPlace) (.int 257)] .load

/-- The texts of statements that have been read. -/
def textsOf (r : Except ReadError (List Code) × Static.Machine) : Option (List String) :=
  r.1.toOption.bind fun cs => (Code.flattenAll cs).mapM fun c => c.source.toOption

/-- What the loop is read as, and what its body is read as where the variable is a static name. -/
def identityReadings : Option (List String) × Option (List String) :=
  let loop := Stmt.loop loopPlace (.name loopPlace "i" .store) identityIter
    [loopChoice identityTest] []
  (textsOf ((lowerStmts Static.evaluator [] [] [] [loop]).run .empty),
    match (Static.evaluator.evaluate [] [] identityIter).run .empty with
    | (.value w, m) =>
      match Static.evaluator.walk w m with
      | .next v s _ =>
        textsOf ((lowerStmts Static.evaluator [] [("i", v)] [] [loopChoice identityTest]).run s)
      | _ => none
    | _ => none)

end Loops

end Reading

end DataDiagram
