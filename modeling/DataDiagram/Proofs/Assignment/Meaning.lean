import DataDiagram.Proofs.Assignment.Read
import DataDiagram.Static.RightSide
/-!
# What accepted right sides mean

A right side is accepted if it evaluates to an integer, a variable, an integer times a variable, or
a sum of these.  A sum that has been worked out mentions a variable in one term, but one that has
been kept as it is may mention it in several, and the linear form only takes the last of them.
-/

namespace DataDiagram.Assignment

open List

variable {σ : Type} {A : Algebra σ}

/-- What is assumed of an algebra: a right side is evaluated to a quantity of the value that it has.
Here `meaning` gives right sides their values, where variables have integer values. -/
def Algebra.Sound (A : Algebra σ) (state : σ) (meaning : List Atom → (String → Int) → Option Int) :
    Prop :=
  ∀ right q, ((A.evaluate right).run state).1 = .quantity q →
    ∀ v n k, meaning right v = some n → q.valueAt v = some k → k = n

namespace Session

variable {form : LinearForm} {s : Session σ}

theorem linear_eq_ok {right : List Atom} (h : (s.linear A right).1 = .ok form) :
    ∃ q, ((A.evaluate right).run s.state).1 = .quantity q ∧ LinearForm.ofQuantity q = .ok form := by
  have hform : formOf right ((A.evaluate right).run s.state).1 = .ok form := h
  unfold formOf at hform
  split at hform
  · next q hq =>
      refine ⟨q, hq, ?_⟩
      cases hlinear : LinearForm.ofQuantity q with
      | error e =>
        rw [hlinear] at hform
        cases hform
      | ok form' =>
        rw [hlinear] at hform
        cases hform
        rfl
  · cases hform
  · cases hform
  · cases hform

/-- A text that is read as a linear form is an assignment or an increase by a right side that has a
linear form. -/
theorem read_eq_ok {text left : String} {op : Operator}
    (h : (s.read A text).1 = .ok ⟨left, op, .linear form⟩) :
    op = .assign ∧ ∃ sourceOp right form', shape? s.names text = some ⟨some left, sourceOp, right⟩ ∧
      (sourceOp = .assign ∨ sourceOp = .increase) ∧ (s.linear A right).1 = .ok form' ∧
      form = assigned sourceOp left form' := by
  unfold read at h
  split at h
  · cases h
  · cases h
  · next left' sourceOp right hshape =>
      split at h
      · next digits _ =>
          cases hvalue : numeralValue digits with
          | error e =>
            rw [hvalue] at h
            cases h
          | ok n =>
            rw [hvalue] at h
            cases h
      · split at h
        · cases h
        · unfold expression at h
          dsimp only at h
          cases hlinear : (s.linear A right).1 with
          | error e =>
            rw [hlinear] at h
            split at h <;> cases h
          | ok form' =>
            rw [hlinear] at h
            split at h
            · cases h
              exact ⟨rfl, .assign, right, form, hshape, .inl rfl, hlinear, rfl⟩
            · cases h
              exact ⟨rfl, .increase, right, form', hshape, .inr rfl, hlinear, rfl⟩
            · cases h

/-- A linear form that is read from a text stands for the right side of the text.  Under all values
of the variables it has the value of the right side, plus that of the assigned variable for an
increase, if no variable stands in two terms of the sum that the right side evaluates to; more
exactly, if and only if the last of these terms has all of the variable's coefficient. -/
theorem read_meaning {σ : Type} {A : Algebra σ} {s : Session σ}
    {meaning : List Atom → (String → Int) → Option Int} (hA : A.Sound s.state meaning)
    {text left : String} {op : Operator} {form : LinearForm}
    (h : (s.read A text).1 = .ok ⟨left, op, .linear form⟩) :
    op = .assign ∧ ∃ sourceOp right q,
      shape? s.names text = some ⟨some left, sourceOp, right⟩ ∧
      (sourceOp = .assign ∨ sourceOp = .increase) ∧
      ((A.evaluate right).run s.state).1 = .quantity q ∧ (∀ v, ∃ n, q.valueAt v = some n) ∧
      ((q.multiples.map Prod.fst).Nodup → ∀ (v : String → Int) (n : Int), meaning right v = some n →
        form.valueAt v = n + if sourceOp = .increase then v left else 0) ∧
      ((∀ (v : String → Int) (n : Int), q.valueAt v = some n →
          form.valueAt v = n + if sourceOp = .increase then v left else 0) ↔
        ∀ x, LinearForm.latest q.multiples x = LinearForm.coefficients q.multiples x) := by
  obtain ⟨hop, sourceOp, right, form', hshape, hsource, hlinear, rfl⟩ := read_eq_ok h
  obtain ⟨q, hq, hform⟩ := linear_eq_ok hlinear
  obtain ⟨hcoef, hnumber⟩ := LinearForm.ofQuantity_eq_ok hform
  have hnodup : (form'.coef.map Prod.fst).Nodup := by
    rw [hcoef]
    exact (LinearForm.coefficients_foldl_put q.multiples).1
  have hassigned : (∀ (v : String → Int) (n : Int), q.valueAt v = some n →
      (assigned sourceOp left form').valueAt v = n + if sourceOp = .increase then v left else 0) ↔
      ∀ x, LinearForm.latest q.multiples x = LinearForm.coefficients q.multiples x := by
    simp only [valueAt_assigned hnodup, add_left_inj]
    exact LinearForm.forall_valueAt_iff hform
  refine ⟨hop, sourceOp, right, q, hshape, hsource, hq, fun v => ⟨_, hnumber v⟩,
    fun hterms v n hn => ?_, hassigned⟩
  have hvalue := hassigned.2 (LinearForm.latest_of_nodup hterms) v _ (hnumber v)
  rwa [hA right q hq v n _ hn (hnumber v)] at hvalue

/-- An increase by a number and a product that is kept as it is. -/
theorem read_meaning_increase :
    let text := "x += 3 + Mul(y, 2, evaluate=False)"
    let right := atomsFrom ["x", "y"] 0 "3 + Mul(y, 2, evaluate=False)".toList
    let s := start (Static.algebra [text]) ["x", "y"]
    let form : LinearForm := ⟨3, [("y", 2), ("x", 1)]⟩
    (Static.algebra [text]).Sound s.state
        (fun r v => if r = right then some (3 + v "y" * 2) else none) ∧
      (s.read (Static.algebra [text]) text).1 = .ok ⟨"x", .assign, .linear form⟩ ∧
      ∀ v : String → Int, form.valueAt v = 3 + v "y" * 2 + v "x" := by
  intro text right s form
  have hread : (s.read (Static.algebra [text]) text).1 = .ok ⟨"x", .assign, .linear form⟩ := by
    decide +kernel
  have hparts : (shape? s.names text).map (fun t => (t.op, t.right)) = some (.increase, right) := by
    decide +kernel
  have hterms : (match (((Static.algebra [text]).evaluate right).run s.state).1 with
      | .quantity q => some ((LinearForm.ofQuantity q).toOption, q.multiples)
      | _ => none) = some (some ⟨3, [("y", 2)]⟩, [("y", 2)]) := by
    decide +kernel
  have hquantity (q : Quantity) (hq : (((Static.algebra [text]).evaluate right).run s.state).1 =
      .quantity q) : q.multiples = [("y", 2)] ∧ ∀ v, q.valueAt v = some (3 + v "y" * 2) := by
    rw [hq] at hterms
    obtain ⟨hform, hmultiples⟩ := Prod.mk.inj (Option.some.inj hterms)
    cases hlinear : LinearForm.ofQuantity q with
    | error e =>
      rw [hlinear] at hform
      cases hform
    | ok form' =>
      rw [hlinear] at hform
      obtain rfl := Option.some.inj hform
      refine ⟨hmultiples, fun v => ?_⟩
      rw [(LinearForm.ofQuantity_eq_ok hlinear).2 v, hmultiples]
      simp [mul_comm]
  have hsound : (Static.algebra [text]).Sound s.state
      (fun r v => if r = right then some (3 + v "y" * 2) else none) := by
    intro r q hq v n k hn hk
    dsimp only at hn
    by_cases hr : r = right
    · subst hr
      rw [if_pos rfl] at hn
      rw [(hquantity q hq).2 v, hn] at hk
      exact (Option.some.inj hk).symm
    · rw [if_neg hr] at hn
      cases hn
  refine ⟨hsound, hread, fun v => ?_⟩
  obtain ⟨-, op, r, q, hshape, -, hq, -, hmeaning, -⟩ := read_meaning hsound hread
  rw [hshape] at hparts
  obtain ⟨rfl, rfl⟩ := Prod.mk.inj (Option.some.inj hparts)
  have hnodup : (q.multiples.map Prod.fst).Nodup := by
    rw [(hquantity q hq).1]
    exact nodup_singleton _
  exact hmeaning hnodup v _ (if_pos rfl)

/-- A sum of twice the same variable that is kept as it is loses one of its terms. -/
theorem read_repeated_term :
    let text := "x = Add(y, y, evaluate=False)"
    let right := atomsFrom ["x", "y"] 0 "Add(y, y, evaluate=False)".toList
    let s := start (Static.algebra [text]) ["x", "y"]
    (s.read (Static.algebra [text]) text).1 = .ok ⟨"x", .assign, .linear ⟨0, [("y", 1)]⟩⟩ ∧
      (shape? s.names text).map (fun t => (t.left, t.op, t.right)) =
        some (some "x", .assign, right) ∧
      ∃ q, (((Static.algebra [text]).evaluate right).run s.state).1 = .quantity q ∧
        q.valueAt (fun _ => 1) = some 2 := by
  intro text right s
  refine ⟨by decide +kernel, by decide +kernel, ?_⟩
  have hvalue : (match (((Static.algebra [text]).evaluate right).run s.state).1 with
      | .quantity q => q.valueAt fun _ => 1
      | _ => none) = some 2 := by
    decide +kernel
  split at hvalue
  · next q hq => exact ⟨q, hq, hvalue⟩
  · cases hvalue

end Session

end DataDiagram.Assignment
