import DataDiagram.Proofs.Assignment.Exact
import DataDiagram.Static.RightSide
/-!
# Reading linear assignments

An assignment whose right side is a linear expression is read as the linear form of that expression,
and an increase as the form of the sum, in every algebra that computes with linear expressions
exactly.
-/

namespace DataDiagram.Assignment

open List

variable {σ : Type} {A : Algebra σ} {names : List String}

/-- A quantity of which like terms are collected is taken apart into a form with all of its
terms. -/
theorem Quantity.IsCollected.exists_form {q : Quantity} (h : q.IsCollected) {t : Term}
    (hvalue : ∀ v, q.valueAt v = some (t.value v)) : ∃ coef,
      LinearForm.ofQuantity q = .ok ⟨t.constant, coef⟩ ∧ (coef.map Prod.fst).Nodup ∧
        (∀ m ∈ coef, m.2 ≠ 0) ∧ LinearForm.coefficients coef = t.coefficient ∧
        ∀ v, LinearForm.valueAt v ⟨t.constant, coef⟩ = t.value v := by
  obtain ⟨form, hform⟩ := LinearForm.exists_ofQuantity fun s hs =>
    (h.1 s hs).imp_right fun ⟨x, k, hm, _⟩ => ⟨(x, k), hm⟩
  obtain ⟨hcoef, hsum⟩ := LinearForm.ofQuantity_eq_ok hform
  rw [LinearForm.foldl_put_of_nodup h.2, nil_append] at hcoef
  have hequal (v : String → Int) : form.valueAt v = t.value v := by
    rw [LinearForm.valueAt, hcoef]
    exact Option.some.inj ((hsum v).symm.trans (hvalue v))
  have hinc : form.inc = t.constant := by
    have hzero := hequal 0
    simpa [LinearForm.valueAt, Term.constant] using hzero
  obtain ⟨inc, coef⟩ := form
  dsimp only at hcoef hinc
  subst hinc
  refine ⟨coef, hform, hcoef ▸ h.2, fun m hm => ?_, ?_, hequal⟩
  · rw [hcoef, multiples, mem_filterMap] at hm
    obtain ⟨s, hs, hm⟩ := hm
    rcases h.1 s hs with ⟨n, rfl⟩ | ⟨x, k, hxk, hk⟩
    · cases hm
    · obtain rfl := Option.some.inj (hxk.symm.trans hm)
      exact hk
  · funext x
    rw [Term.coefficient, ← hequal, ← hequal, LinearForm.valueAt, LinearForm.valueAt,
      LinearForm.sum_single]
    simp

/-! ## Assignments -/

variable {ls : List Lexeme} {t : Term}

theorem Spaced.not_mem_newline (h : Separable names)
    {right : List Char} (hright : Spaced String.toList ls right) (hover : ∀ l ∈ ls, l.Over names) :
    '\n' ∉ right := by
  have hgapline {gap : List Char} (hgap : ∀ c ∈ gap, Source.isGap c = true) : '\n' ∉ gap :=
    fun hc => absurd (hgap _ hc) (by decide)
  have hpart {l : Lexeme} (hl : l.Over names) : '\n' ∉ l.chars String.toList := by
    intro hc
    cases l with
    | literal cs =>
      obtain ⟨⟨n, ds, hds, -⟩, -⟩ := hl
      exact absurd (hds.isWord _ hc) (by decide)
    | name x =>
      have hx := h.isIdentifier x hl
      rw [Lexeme.chars] at hc
      cases hcs : x.toList with
      | nil => simp [hcs] at hc
      | cons c cs =>
        rw [hcs, Text.isIdentifier, Bool.and_eq_true, all_eq_true] at hx
        rw [hcs] at hc
        rcases mem_cons.1 hc with rfl | hc
        · exact absurd hx.1 (by decide)
        · exact absurd (hx.2 _ hc) (by decide)
    | mark m => cases m <;> exact absurd hc (by decide)
  induction hright with
  | nil hgap => exact hgapline hgap
  | cons hgap _ ih =>
    rw [forall_mem_cons] at hover
    simp only [mem_append, not_or]
    exact ⟨⟨hgapline hgap, hpart hover.1⟩, ih hover.2⟩

theorem Denotes.not_mem_newline (h : Separable names) {right : List Char}
    (hright : Denotes names right t) : '\n' ∉ right := by
  obtain ⟨ls, hspaced, hls⟩ := hright
  exact hspaced.not_mem_newline h hls.over

theorem read_eq (h : Separable names) {left : String} {op : Operator}
    {right : List Char} {text : String} (htext : IsAssignment names left op right text.toList)
    (hline : '\n' ∉ right) (hnumeral : right.all Text.isNumeral = false)
    (hname : String.ofList right ∉ names) :
    read A names text =
    (formOf (atomsFrom names 0 right) (A.first names (atomsFrom names 0 right))).map
      fun form => ⟨left, .assign, .linear (assigned op left form)⟩ := by
  have hnames : (Session.start A names).names = names := rfl
  rw [read, Session.read, hnames, h.shape?_eq htext hline]
  simp only [h.numeral?_atomsFrom hnumeral]
  split
  · next x hx => exact absurd hx (h.atomsFrom_ne_name hname x)
  · rcases htext.op_eq with rfl | rfl <;> rfl

/-- In an exact algebra, a linear assignment is read as its exact linear form, which denotes the
same update as the text.  A right side without variables is refused. -/
theorem read_linear {σ : Type} {A : Algebra σ} {names : List String} (hA : A.Exact names)
    (h : Separable names) {left : String} {op : Operator} {right : List Char} {text : String}
    (htext : IsAssignment names left op right text.toList) {t : Term}
    (hright : Denotes names right t) (ht : t.IsLinear) (hnumeral : right.all Text.isNumeral = false)
    (hname : String.ofList right ∉ names) :
    (t.names ≠ [] → ∃ coef, read A names text = .ok ⟨left, .assign, .linear ⟨t.constant, coef⟩⟩ ∧
      (coef.map Prod.fst).Nodup ∧
      (∀ x k, (x, k) ∈ coef ↔ k = ownCoefficient op left x + t.coefficient x ∧
        (t.coefficient x ≠ 0 ∨ ownCoefficient op left x ≠ 0)) ∧
      ∀ v : String → Int, t.constant + (coef.map fun m => m.2 * v m.1).sum =
        t.value v + if op = .increase then v left else 0) ∧
    (t.names = [] → ∃ e, read A names text = .error e ∧ e.kind = .attribute) := by
  rw [read_eq h htext (hright.not_mem_newline h) hnumeral hname]
  refine ⟨fun hnames => ?_, fun hnames => ?_⟩
  · obtain ⟨q, hq⟩ := hA.evaluates hright ht hnames
    obtain ⟨coef, hform, hnodup, hne, hcoef, hvalue⟩ :=
      (hA.collected hright ht hq).exists_form (hA.value hright ht hq)
    obtain ⟨hnodup', hkeys, hcoef'⟩ := @assigned_coef ⟨t.constant, coef⟩ hnodup hne op left
    have hassigned : assigned op left ⟨t.constant, coef⟩ =
        ⟨t.constant, (assigned op left ⟨t.constant, coef⟩).coef⟩ := by
      unfold assigned
      split <;> rfl
    refine ⟨(assigned op left ⟨t.constant, coef⟩).coef, ?_, hnodup', fun x k => ?_, fun v => ?_⟩
    · rw [hq, formOf, hform, ← hassigned]
      rfl
    · rw [LinearForm.mem_iff hnodup', hkeys, hcoef', hcoef, Pi.add_apply, and_comm]
    · have hupdate := @valueAt_assigned ⟨t.constant, coef⟩ hnodup op left v
      rw [hvalue, hassigned] at hupdate
      exact hupdate
  · rw [hA.plain hright hnames]
    exact ⟨_, rfl, rfl⟩

/-- An increase in which the variable that is assigned cancels out still mentions it. -/
theorem read_linear_cancelled : ∃ coef,
    read calculator ["x", "y"] "x += 2*(y - x) + x" = .ok ⟨"x", .assign, .linear ⟨0, coef⟩⟩ ∧
      ("x", 0) ∈ coef ∧ ("y", 2) ∈ coef := by
  let t : Term := .add (.mul (.number 2) (.sub (.var "y") (.var "x"))) (.var "x")
  let ls : List Lexeme := [.literal ['2'], .mark .star, .mark .openParen, .name "y", .mark .minus,
    .name "x", .mark .closeParen, .mark .plus, .name "x"]
  have hseparable : Separable ["x", "y"] := ⟨by decide, by decide, by decide⟩
  have htext : IsAssignment ["x", "y"] "x" .increase "2*(y - x) + x".toList
      "x += 2*(y - x) + x".toList :=
    ⟨by decide, .inr rfl, ⟨[], [' '], [' '], by decide, by decide⟩, ⟨'2', _, rfl, by decide⟩⟩
  have hright : Spaced String.toList ls "2*(y - x) + x".toList :=
    @Spaced.cons _ [] _ _ "*(y - x) + x".toList (by decide) <|
    @Spaced.cons _ [] _ _ "(y - x) + x".toList (by decide) <|
    @Spaced.cons _ [] _ _ "y - x) + x".toList (by decide) <|
    @Spaced.cons _ [] _ _ " - x) + x".toList (by decide) <|
    @Spaced.cons _ [' '] _ _ " x) + x".toList (by decide) <|
    @Spaced.cons _ [' '] _ _ ") + x".toList (by decide) <|
    @Spaced.cons _ [] _ _ " + x".toList (by decide) <|
    @Spaced.cons _ [' '] _ _ " x".toList (by decide) <|
    @Spaced.cons _ [' '] _ _ [] (by decide) <| .nil (by decide)
  have hliteral : IsLiteral ['2'] 2 := ⟨['2'], .last rfl, by decide, by decide, rfl⟩
  have hspells : Spells ["x", "y"] Source.maxBrackets .sum t ls :=
    .add (.product (.mul (.factor (.literal hliteral (by decide)))
      (.paren (.sub (.product (.factor (.name (by decide)))) (.factor (.name (by decide)))))))
      (.factor (.name (by decide)))
  have hlinear : t.IsLinear := by
    simp [t, Term.IsLinear, Term.names]
  obtain ⟨coef, hread, -, hmem, -⟩ :=
    (read_linear (exact_calculator hseparable) hseparable htext ⟨ls, hright, hspells⟩ hlinear
      (by decide) (by decide)).1 (by simp [t, Term.names])
  have hcoefficient : t.coefficient "x" = -1 ∧ t.coefficient "y" = 2 := by
    simp [t, Term.coefficient, Term.value]
  refine ⟨coef, hread, (hmem _ _).2 ?_, (hmem _ _).2 ?_⟩
  · simp [hcoefficient, ownCoefficient]
  · simp [hcoefficient, ownCoefficient]

/-- A sum in parentheses that goes over two lines is refused. -/
theorem read_two_lines :
    read (Static.algebra ["x = 1*(y +\n z)"]) ["x", "y", "z"] "x = 1*(y +\n z)" =
      .error (.wrongStructure "x = 1*(y +\n z)") := by
  decide +kernel

end DataDiagram.Assignment
