import DataDiagram.Assignment.Linear
import Mathlib.Algebra.BigOperators.Ring.Finset
import Mathlib.Algebra.BigOperators.Pi
import Mathlib.Tactic.Ring
/-!
# Linear forms of quantities

A quantity that has a linear form is a sum of integers and of integers times symbols.  The form has
the latest coefficient of each symbol, which is all that the symbol has if it stands in one term
only.
-/

namespace DataDiagram.Assignment

open List

/-! ## Values of quantities -/

namespace Quantity

mutual

/-- The value of a quantity where symbols have integer values, as far as it is known. -/
def valueAt (v : String → Int) : Quantity → Option Int
  | integer n => some n
  | symbol x => some (v x)
  | product fs _ => (valuesAt v fs).map List.prod
  | sum ts _ => (valuesAt v ts).map List.sum
  | other _ => none

/-- The values of several quantities. -/
def valuesAt (v : String → Int) : List Quantity → Option (List Int)
  | [] => some []
  | q :: qs => (valueAt v q).bind fun k => (valuesAt v qs).map (k :: ·)

end

/-- The terms of a sum; any other quantity is a term of its own. -/
def summands : Quantity → List Quantity
  | sum ts _ => ts
  | q => [q]

/-- The symbol and the coefficient of an integer times a symbol. -/
def multiple? : Quantity → Option (String × Int)
  | symbol x => some (x, 1)
  | product [integer k, symbol x] _ | product [symbol x, integer k] _ => some (x, k)
  | _ => none

/-- The terms of a quantity that are multiples of symbols. -/
def multiples (q : Quantity) : List (String × Int) := q.summands.filterMap multiple?

theorem valueAt_of_multiple? {q : Quantity} {x : String} {k : Int} (h : q.multiple? = some (x, k))
    (v : String → Int) : q.valueAt v = some (k * v x) := by
  unfold multiple? at h
  split at h
  · cases h
    rw [valueAt, one_mul]
  · cases h
    simp [valueAt, valuesAt]
  · cases h
    simp [valueAt, valuesAt, mul_comm]
  · cases h

end Quantity

open Quantity (multiple?)

namespace LinearForm

/-! ## Coefficients -/

/-- The coefficients that symbols have together. -/
def coefficients (ms : List (String × Int)) : String → Int :=
  (ms.map fun m => Pi.single m.1 m.2).sum

variable {ms : List (String × Int)}

theorem coefficients_cons (x : String) (k : Int) (ms : List (String × Int)) :
    coefficients ((x, k) :: ms) = Pi.single x k + coefficients ms := by
  rw [coefficients, map_cons, sum_cons, coefficients]

theorem coefficients_of_not_mem {x : String} (hx : x ∉ ms.map Prod.fst) :
    coefficients ms x = 0 := by
  induction ms with
  | nil => rfl
  | cons m ms ih =>
    rw [map_cons, mem_cons, not_or] at hx
    rw [coefficients_cons, Pi.add_apply, Pi.single_eq_of_ne hx.1, ih hx.2, add_zero]

theorem coefficients_of_mem (hms : (ms.map Prod.fst).Nodup)
    {m : String × Int} (hm : m ∈ ms) : coefficients ms m.1 = m.2 := by
  induction ms with
  | nil => exact absurd hm not_mem_nil
  | cons m' ms ih =>
    rw [map_cons, nodup_cons] at hms
    rw [coefficients_cons, Pi.add_apply]
    rcases mem_cons.1 hm with rfl | hm
    · rw [Pi.single_eq_same, coefficients_of_not_mem hms.1, add_zero]
    · have hne : m.1 ≠ m'.1 := by
        intro heq
        exact hms.1 (heq ▸ mem_map_of_mem hm)
      rw [Pi.single_eq_of_ne hne, ih hms.2 hm, zero_add]
theorem mem_iff (hms : (ms.map Prod.fst).Nodup) (x : String) (k : Int) :
    (x, k) ∈ ms ↔ x ∈ ms.map Prod.fst ∧ k = coefficients ms x := by
  constructor
  · intro hm
    exact ⟨mem_map_of_mem hm, (coefficients_of_mem hms hm).symm⟩
  · rintro ⟨hx, rfl⟩
    obtain ⟨⟨y, k⟩, hm, rfl⟩ := mem_map.1 hx
    rw [coefficients_of_mem hms hm]
    exact hm

theorem sum_eq (v : String → Int) {S : Finset String}
    (hS : ∀ x ∈ ms.map Prod.fst, x ∈ S) :
    (ms.map fun m => m.2 * v m.1).sum = ∑ x ∈ S, coefficients ms x * v x := by
  induction ms with
  | nil => simp [coefficients]
  | cons m ms ih =>
    rw [map_cons, forall_mem_cons] at hS
    rw [map_cons, sum_cons, ih hS.2, coefficients_cons]
    simp [Pi.single_apply, add_mul, Finset.sum_add_distrib, hS.1]

theorem put_of_not_mem {x : String} (hx : x ∉ ms.map Prod.fst) (k : Int) :
    Names.put ms x k = ms ++ [(x, k)] := by
  induction ms with
  | nil => rfl
  | cons m ms ih =>
    rw [map_cons, mem_cons, not_or] at hx
    simp [Names.put, ih hx.2, Ne.symm hx.1]

/-! ## Terms one after another -/

def valueAt (v : String → Int) (form : LinearForm) : Int :=
  form.inc + (form.coef.map fun m => m.2 * v m.1).sum

/-- The coefficient that a variable has last. -/
def latest (ms : List (String × Int)) (x : String) : Int := (ms.reverse.lookup x).getD 0

theorem ofProduct_eq_ok {factors : List Quantity} {text : Except Raised String} {m : String × Int}
    (h : ofProduct factors text = .ok m) : (Quantity.product factors text).multiple? = some m := by
  unfold ofProduct at h
  split at h
  · cases h
    rfl
  · cases h
    rfl
  · cases h
  · cases h

theorem ofProduct_of_multiple? {factors : List Quantity} {text : Except Raised String}
    {m : String × Int} (h : (Quantity.product factors text).multiple? = some m) :
    ofProduct factors text = .ok m := by
  unfold multiple? at h
  split at h
  · next heq => cases heq
  · next heq =>
      cases heq
      cases h
      rfl
  · next heq =>
      cases heq
      cases h
      rfl
  · cases h

variable {form form' : LinearForm} {q : Quantity}

/-- A term that is accepted is an integer or a multiple of a symbol. -/
theorem addTerm_eq_ok {t : Quantity} (h : form.addTerm t = .ok form') :
    (∃ k, t = .integer k ∧ form' = { form with inc := form.inc + k }) ∨
      ∃ x k, t.multiple? = some (x, k) ∧
        form' = { form with coef := Names.put form.coef x k } := by
  unfold addTerm at h
  split at h
  · next k =>
      cases h
      exact .inl ⟨k, rfl, rfl⟩
  · next x =>
      cases h
      exact .inr ⟨x, 1, rfl, rfl⟩
  · next factors text =>
      cases hproduct : ofProduct factors text with
      | error e =>
        rw [hproduct] at h
        cases h
      | ok m =>
        rw [hproduct] at h
        cases h
        exact .inr ⟨m.1, m.2, ofProduct_eq_ok hproduct, rfl⟩
  · cases h
  · cases h

theorem exists_addTerm {t : Quantity} (h : (∃ n, t = .integer n) ∨ ∃ m, t.multiple? = some m)
    (form : LinearForm) : ∃ form', form.addTerm t = .ok form' := by
  rcases h with ⟨n, rfl⟩ | ⟨m, hm⟩
  · exact ⟨_, rfl⟩
  · cases t with
    | integer n => cases hm
    | symbol x => exact ⟨_, rfl⟩
    | product factors text =>
      refine ⟨{ form with coef := Names.put form.coef m.1 m.2 }, ?_⟩
      rw [addTerm, ofProduct_of_multiple? hm]
      rfl
    | sum ts text => cases hm
    | other text => cases hm

/-- Terms that are accepted add their integers to the constant, and put their multiples into the
coefficients one after another. -/
theorem foldlM_addTerm_eq_ok {ts : List Quantity}
    (h : ts.foldlM addTerm form = .ok form') : ∃ n : Int,
    form'.inc = form.inc + n ∧
      form'.coef = (ts.filterMap multiple?).foldl (fun c m => Names.put c m.1 m.2) form.coef ∧
      ∀ v, (Quantity.valuesAt v ts).map List.sum =
        some (n + ((ts.filterMap multiple?).map fun m => m.2 * v m.1).sum) := by
  induction ts generalizing form with
  | nil =>
    cases h
    exact ⟨0, by simp, rfl, fun v => by simp [Quantity.valuesAt]⟩
  | cons t ts ih =>
    rw [foldlM_cons] at h
    cases hterm : form.addTerm t with
    | error e =>
      rw [hterm] at h
      cases h
    | ok next =>
      rw [hterm] at h
      obtain ⟨n, hinc, hcoef, hvalue⟩ := ih h
      have hsum (v : String → Int) (k : Int) (ht : t.valueAt v = some k) :
          (Quantity.valuesAt v (t :: ts)).map List.sum =
            some (k + (n + ((ts.filterMap multiple?).map fun m => m.2 * v m.1).sum)) := by
        obtain ⟨ks, hks, hksum⟩ := Option.map_eq_some_iff.1 (hvalue v)
        simp [Quantity.valuesAt, ht, hks, hksum]
      rcases addTerm_eq_ok hterm with ⟨k, rfl, rfl⟩ | ⟨x, k, hsome, rfl⟩
      · have hnone : multiple? (.integer k) = none := rfl
        refine ⟨k + n, by rw [hinc, add_assoc], ?_, fun v => ?_⟩
        · rw [hcoef, filterMap_cons_none hnone]
        · rw [hsum v k rfl, filterMap_cons_none hnone, add_assoc]
      · refine ⟨n, hinc, ?_, fun v => ?_⟩
        · rw [hcoef, filterMap_cons_some hsome, foldl_cons]
        · rw [hsum v _ (Quantity.valueAt_of_multiple? hsome v), filterMap_cons_some hsome,
            map_cons, sum_cons, add_left_comm]

theorem exists_foldlM_addTerm {ts : List Quantity}
    (h : ∀ t ∈ ts, (∃ n, t = .integer n) ∨ ∃ m, t.multiple? = some m) (form : LinearForm) :
    ∃ form', ts.foldlM addTerm form = .ok form' := by
  induction ts generalizing form with
  | nil => exact ⟨form, rfl⟩
  | cons t ts ih =>
    rw [forall_mem_cons] at h
    obtain ⟨next, hnext⟩ := exists_addTerm h.1 form
    obtain ⟨form', hform'⟩ := ih h.2 next
    exact ⟨form', by rw [foldlM_cons, hnext]; exact hform'⟩

/-- A quantity has a linear form if it is a sum of integers and multiples of symbols. -/
theorem exists_ofQuantity (h : ∀ t ∈ q.summands, (∃ n, t = .integer n) ∨ ∃ m, t.multiple? =
      some m) :
    ∃ form, ofQuantity q = .ok form := by
  cases q with
  | integer n => exact ⟨_, rfl⟩
  | symbol x => exact ⟨_, rfl⟩
  | product factors text =>
    rcases h _ mem_cons_self with ⟨n, hn⟩ | ⟨m, hm⟩
    · cases hn
    · refine ⟨⟨0, [m]⟩, ?_⟩
      rw [ofQuantity, ofProduct_of_multiple? hm]
      rfl
  | sum ts text => exact exists_foldlM_addTerm h _
  | other text =>
    rcases h _ mem_cons_self with ⟨n, hn⟩ | ⟨m, hm⟩
    · cases hn
    · cases hm

/-- What a quantity with a linear form is: a constant and multiples, of which the form has the
latest. -/
theorem ofQuantity_eq_ok (h : ofQuantity q = .ok form) :
    form.coef = q.multiples.foldl (fun c m => Names.put c m.1 m.2) [] ∧
      ∀ v, q.valueAt v = some (form.inc + (q.multiples.map fun m => m.2 * v m.1).sum) := by
  have hsingle {x : String} {k : Int} (hsummands : q.summands = [q])
      (hm : q.multiple? = some (x, k))
      (hform : form = ⟨0, [(x, k)]⟩) :
      form.coef = q.multiples.foldl (fun c m => Names.put c m.1 m.2) [] ∧
        ∀ v, q.valueAt v = some (form.inc + (q.multiples.map fun m => m.2 * v m.1).sum) := by
    have hmultiples : q.multiples = [(x, k)] := by
      rw [Quantity.multiples, hsummands, filterMap_cons_some hm, filterMap_nil]
    subst hform
    refine ⟨by rw [hmultiples]; rfl, fun v => ?_⟩
    rw [hmultiples, Quantity.valueAt_of_multiple? hm v]
    simp
  unfold ofQuantity at h
  split at h
  · next k =>
      cases h
      have hmultiples : (Quantity.integer k).multiples = [] := rfl
      refine ⟨rfl, fun v => ?_⟩
      rw [hmultiples, map_nil, sum_nil, add_zero]
      rfl
  · next x =>
      cases h
      exact hsingle rfl rfl rfl
  · next factors text =>
      cases hproduct : ofProduct factors text with
      | error e =>
        rw [hproduct] at h
        cases h
      | ok m =>
        rw [hproduct] at h
        cases h
        exact hsingle rfl (ofProduct_eq_ok hproduct) rfl
  · next ts text =>
      obtain ⟨n, hinc, hcoef, hvalue⟩ := foldlM_addTerm_eq_ok h
      refine ⟨hcoef, fun v => ?_⟩
      rw [hinc, zero_add]
      exact hvalue v
  · cases h

/-! ## The latest coefficients -/

theorem coefficients_put (hms : (ms.map Prod.fst).Nodup) (x : String)
    (k : Int) : ((Names.put ms x k).map Prod.fst).Nodup ∧
      (∀ y, y ∈ (Names.put ms x k).map Prod.fst ↔ y ∈ ms.map Prod.fst ∨ y = x) ∧
      coefficients (Names.put ms x k) = Function.update (coefficients ms) x k := by
  induction ms with
  | nil =>
    refine ⟨by simp [Names.put], by simp [Names.put], ?_⟩
    rw [Names.put, coefficients_cons]
    exact add_zero _
  | cons m ms ih =>
    obtain ⟨y, j⟩ := m
    rw [map_cons, nodup_cons] at hms
    by_cases hyx : y = x
    · subst hyx
      have hput : Names.put ((y, j) :: ms) y k = (y, k) :: ms := by
        simp [Names.put]
      rw [hput]
      refine ⟨nodup_cons.2 hms, fun z => ?_, ?_⟩
      · simp only [map_cons, mem_cons]
        tauto
      · funext z
        by_cases hzy : z = y
        · subst hzy
          simp [coefficients_cons, coefficients_of_not_mem hms.1]
        · simp [coefficients_cons, hzy]
    · obtain ⟨hnodup, hkeys, hcoef⟩ := ih hms.2
      have hput : Names.put ((y, j) :: ms) x k = (y, j) :: Names.put ms x k := by
        simp [Names.put, hyx]
      rw [hput]
      refine ⟨?_, fun z => ?_, ?_⟩
      · rw [map_cons, nodup_cons, hkeys]
        exact ⟨not_or.2 ⟨hms.1, hyx⟩, hnodup⟩
      · rw [map_cons, mem_cons, hkeys, map_cons, mem_cons, or_assoc]
      · funext z
        rw [coefficients_cons, coefficients_cons, hcoef, Pi.add_apply]
        by_cases hzx : z = x
        · subst hzx
          rw [Function.update_self, Function.update_self, Pi.single_eq_of_ne (Ne.symm hyx),
            zero_add]
        · rw [Function.update_of_ne hzx, Function.update_of_ne hzx, Pi.add_apply]

theorem coefficients_foldl_put (ms : List (String × Int)) :
    ((ms.foldl (fun c m => Names.put c m.1 m.2) []).map Prod.fst).Nodup ∧
      coefficients (ms.foldl (fun c m => Names.put c m.1 m.2) []) = latest ms := by
  induction ms using List.reverseRecOn with
  | nil => exact ⟨nodup_nil, rfl⟩
  | append_singleton ms m ih =>
    obtain ⟨hnodup, hcoef⟩ := ih
    rw [foldl_append, foldl_cons, foldl_nil]
    obtain ⟨hnodup', -, hcoef'⟩ := coefficients_put hnodup m.1 m.2
    refine ⟨hnodup', ?_⟩
    rw [hcoef', hcoef]
    funext x
    obtain ⟨y, k⟩ := m
    by_cases hx : x = y
    · subst hx
      simp [latest]
    · have hne : (x == y) = false := beq_eq_false_iff_ne.2 hx
      simp [latest, lookup_cons, hx, hne]

theorem latest_of_nodup (hms : (ms.map Prod.fst).Nodup) (x : String) :
    latest ms x = coefficients ms x := by
  have hreverse : (ms.reverse.map Prod.fst).Nodup := by
    rw [map_reverse]
    exact nodup_reverse.2 hms
  rw [latest]
  cases hlook : ms.reverse.lookup x with
  | none =>
    have hx : x ∉ ms.map Prod.fst := by
      intro hx
      obtain ⟨m, hm, rfl⟩ := mem_map.1 hx
      exact absurd (lookup_eq_none_iff.1 hlook m (mem_reverse.2 hm)) (by simp)
    rw [coefficients_of_not_mem hx, Option.getD_none]
  | some k =>
    obtain ⟨before, after, hsplit, -⟩ := lookup_eq_some_iff.1 hlook
    have hm : (x, k) ∈ ms := by
      rw [← mem_reverse, hsplit]
      simp
    rw [coefficients_of_mem hms hm, Option.getD_some]

theorem sum_single (ms : List (String × Int)) (x : String) :
    (ms.map fun m => m.2 * (Pi.single x 1 : String → Int) m.1).sum = coefficients ms x := by
  induction ms with
  | nil => rfl
  | cons m ms ih =>
    rw [map_cons, sum_cons, ih, coefficients_cons, Pi.add_apply, Pi.single_apply,
      Pi.single_apply, mul_ite, mul_one, mul_zero]
    simp only [eq_comm]

/-- Two lists of multiples have one value under all values of the variables exactly if each variable
has the same coefficient in both. -/
theorem forall_sum_eq_iff (ms ms' : List (String × Int)) :
    (∀ v : String → Int, (ms.map fun m => m.2 * v m.1).sum = (ms'.map fun m => m.2 * v m.1).sum) ↔
      coefficients ms = coefficients ms' := by
  constructor
  · intro h
    funext x
    rw [← sum_single, ← sum_single, h]
  · intro h v
    have hleft (x : String) (hx : x ∈ ms.map Prod.fst) :
        x ∈ ((ms ++ ms').map Prod.fst).toFinset := by
      rw [mem_toFinset, map_append]
      exact mem_append_left _ hx
    have hright (x : String) (hx : x ∈ ms'.map Prod.fst) :
        x ∈ ((ms ++ ms').map Prod.fst).toFinset := by
      rw [mem_toFinset, map_append]
      exact mem_append_right _ hx
    rw [sum_eq v hleft, sum_eq v hright, h]

/-- The value of a quantity and that of its linear form are the same under all values of the symbols
exactly if the latest coefficient of each symbol is all that it has. -/
theorem forall_valueAt_iff (h : ofQuantity q = .ok form) :
    (∀ (v : String → Int) (n : Int), q.valueAt v = some n → form.valueAt v = n) ↔
      ∀ x, latest q.multiples x = coefficients q.multiples x := by
  obtain ⟨hcoef, hvalue⟩ := ofQuantity_eq_ok h
  have hlatest : coefficients form.coef = latest q.multiples := by
    rw [hcoef]
    exact (coefficients_foldl_put q.multiples).2
  rw [← funext_iff, ← hlatest, ← forall_sum_eq_iff]
  constructor
  · intro hall v
    have hn := hall v _ (hvalue v)
    rw [valueAt] at hn
    exact add_left_cancel hn
  · intro hall v n hn
    rw [hvalue v, Option.some.injEq] at hn
    rw [← hn, valueAt, hall v]

theorem foldl_put_of_nodup {acc : List (String × Int)} (h : ((acc ++ ms).map Prod.fst).Nodup) :
    ms.foldl (fun c m => Names.put c m.1 m.2) acc = acc ++ ms := by
  induction ms generalizing acc with
  | nil => exact (append_nil acc).symm
  | cons m ms ih =>
    have hfresh : m.1 ∉ acc.map Prod.fst := by
      rw [map_append, map_cons, nodup_append] at h
      exact fun hm => h.2.2 _ hm _ mem_cons_self rfl
    rw [append_cons] at h
    rw [foldl_cons, put_of_not_mem hfresh, ih h, append_assoc]
    rfl

/-! ## Variables -/

theorem addVariable_coef {form : LinearForm} (hform : (form.coef.map Prod.fst).Nodup) (x : String) :
    ((form.addVariable x).coef.map Prod.fst).Nodup ∧
      (∀ y, y ∈ (form.addVariable x).coef.map Prod.fst ↔ y ∈ form.coef.map Prod.fst ∨ y = x) ∧
      coefficients (form.addVariable x).coef = coefficients form.coef + Pi.single x 1 := by
  obtain ⟨inc, ms⟩ := form
  simp only [addVariable, coefficient] at hform ⊢
  induction ms with
  | nil => simp [Names.put, coefficients]
  | cons m ms ih =>
    obtain ⟨y, k⟩ := m
    rw [map_cons, nodup_cons] at hform
    by_cases hxy : x = y
    · subst hxy
      have hput : Names.put ((x, k) :: ms) x (1 + (((x, k) :: ms).lookup x).getD 0) =
          (x, 1 + k) :: ms := by
        simp [Names.put]
      rw [hput]
      refine ⟨nodup_cons.2 hform, fun z => ?_, ?_⟩
      · simp only [map_cons, mem_cons]
        tauto
      · rw [coefficients_cons, coefficients_cons, Pi.single_add, add_assoc, add_comm]
    · obtain ⟨hnodup, hkeys, hcoef⟩ := ih hform.2
      have hput : Names.put ((y, k) :: ms) x (1 + (((y, k) :: ms).lookup x).getD 0) =
          (y, k) :: Names.put ms x (1 + (ms.lookup x).getD 0) := by
        simp [Names.put, Ne.symm hxy, lookup_cons, beq_eq_false_iff_ne.2 hxy]
      rw [hput]
      refine ⟨?_, ?_, ?_⟩
      · rw [map_cons, nodup_cons, hkeys]
        exact ⟨not_or.2 ⟨hform.1, Ne.symm hxy⟩, hnodup⟩
      · intro z
        rw [map_cons, mem_cons, hkeys, map_cons, mem_cons, or_assoc]
      · rw [coefficients_cons, coefficients_cons, hcoef, add_assoc]

theorem valueAt_addVariable (hform : (form.coef.map Prod.fst).Nodup)
    (left : String) (v : String → Int) :
    (form.addVariable left).valueAt v = form.valueAt v + v left := by
  obtain ⟨-, -, hcoef⟩ := addVariable_coef hform left
  have hcons :
      coefficients (form.addVariable left).coef = coefficients ((left, 1) :: form.coef) := by
    rw [hcoef, coefficients_cons, add_comm]
  have hsum := (forall_sum_eq_iff _ _).2 hcons v
  rw [map_cons, sum_cons, one_mul] at hsum
  rw [valueAt, valueAt, hsum, add_comm (v left), add_assoc]
  rfl

end LinearForm

/-! ## Assigned forms -/

/-- The coefficient that an operator gives a variable before the right side is looked at: an
increase starts from the variable that is assigned. -/
def ownCoefficient (op : Operator) (left x : String) : Int :=
  if op = .increase ∧ x = left then 1 else 0

/-- The linear form that is assigned, from that of the right side. -/
def assigned (op : Operator) (left : String) (form : LinearForm) : LinearForm :=
  if op = .increase then form.addVariable left else form

theorem ownCoefficient_eq (op : Operator) (left : String) :
    ownCoefficient op left = if op = .increase then Pi.single left 1 else 0 := by
  funext x
  by_cases hop : op = .increase
  · simp [ownCoefficient, hop, Pi.single_apply]
  · simp [ownCoefficient, hop]

theorem assigned_coef {form : LinearForm} (hnodup : (form.coef.map Prod.fst).Nodup)
    (hne : ∀ m ∈ form.coef, m.2 ≠ 0) (op : Operator) (left : String) :
    ((assigned op left form).coef.map Prod.fst).Nodup ∧
      (∀ x, x ∈ (assigned op left form).coef.map Prod.fst ↔
        LinearForm.coefficients form.coef x ≠ 0 ∨ ownCoefficient op left x ≠ 0) ∧
      LinearForm.coefficients (assigned op left form).coef =
        ownCoefficient op left + LinearForm.coefficients form.coef := by
  have hkeys (x : String) :
      x ∈ form.coef.map Prod.fst ↔ LinearForm.coefficients form.coef x ≠ 0 := by
    constructor
    · intro hx
      obtain ⟨m, hm, rfl⟩ := mem_map.1 hx
      rw [LinearForm.coefficients_of_mem hnodup hm]
      exact hne m hm
    · intro hx
      by_contra hmem
      exact hx (LinearForm.coefficients_of_not_mem hmem)
  by_cases hop : op = .increase
  · obtain ⟨hnodup', hkeys', hcoef⟩ := LinearForm.addVariable_coef hnodup left
    rw [assigned, if_pos hop, ownCoefficient_eq, if_pos hop]
    refine ⟨hnodup', fun x => ?_, hcoef.trans (add_comm _ _)⟩
    rw [hkeys', hkeys, Pi.single_apply]
    simp
  · rw [assigned, if_neg hop, ownCoefficient_eq, if_neg hop]
    exact ⟨hnodup, fun x => by simp [hkeys], (zero_add _).symm⟩

variable {form : LinearForm}

theorem valueAt_assigned (hform : (form.coef.map Prod.fst).Nodup)
    (op : Operator) (left : String) (v : String → Int) :
    (assigned op left form).valueAt v =
      form.valueAt v + if op = .increase then v left else 0 := by
  unfold assigned
  split
  · exact LinearForm.valueAt_addVariable hform left v
  · exact (add_zero _).symm

end DataDiagram.Assignment
