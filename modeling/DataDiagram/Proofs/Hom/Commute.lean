import DataDiagram.Proofs.Hom.Compose
/-!
# Independent assignments

Two assignments to different variables commute if neither of them weighs the target of the other:
each one finds the sum that it would find in the path before the other one was applied.  Only what
they have to show on the way depends on their order, so that one order may fail where the other does
not.
-/

namespace DataDiagram

open List

namespace EdgeList

variable {d : EdgeList} {key : Datum}

theorem IsIntegral.setFirst (hd : d.IsIntegral) (key : Datum) (n : Int) :
    (d.setFirst key (.int n)).IsIntegral := by
  refine ⟨?_, hd.named, ?_⟩
  · have hbalanced := hd.balanced
    simpa [EdgeList.setFirst, Balanced] using hbalanced
  · intro v hv
    rcases mem_or_eq_of_mem_set hv with hold | rfl
    · exact hd.integral v hold
    · exact ⟨n, rfl⟩

variable {a b : String}

/-- Two texts have their first edges at different places, or neither of them has one. -/
theorem findIdx_ne_or (hd : ∀ k ∈ d.keys, ∃ s : String, k = .str s) (hab : a ≠ b) :
    d.keys.findIdx (fun k => k.same (.str a)) ≠ d.keys.findIdx (fun k => k.same (.str b)) ∨
      d.keys.length ≤ d.keys.findIdx (fun k => k.same (.str a)) := by
  by_cases hlt : d.keys.findIdx (fun k => k.same (.str a)) < d.keys.length
  · left
    intro heq
    have hlt' := hlt
    rw [heq] at hlt'
    have ha := findIdx_getElem (w := hlt)
    have hb := findIdx_getElem (w := hlt')
    obtain ⟨s, hs⟩ := hd _ (getElem_mem hlt)
    have hs' : d.keys[d.keys.findIdx (fun k => k.same (.str b))] = .str s := by
      rw [← hs]
      simp only [heq]
    rw [hs, Datum.same_str] at ha
    rw [hs', Datum.same_str] at hb
    exact hab ((eq_of_beq ha).symm.trans (eq_of_beq hb))
  · exact .inr (Nat.le_of_not_lt hlt)

theorem setFirst_comm (hbalanced : d.Balanced) (hd : ∀ k ∈ d.keys, ∃ s : String, k = .str s)
    (hab : a ≠ b) (v w : Datum) :
    (d.setFirst (.str a) v).setFirst (.str b) w = (d.setFirst (.str b) w).setFirst (.str a) v := by
  have hvalues : ∀ i j : Nat, i ≠ j ∨ d.keys.length ≤ i →
      (d.values.set i v).set j w = (d.values.set j w).set i v := by
    intro i j hij
    rcases hij with hne | hle
    · exact set_comm v w hne
    · have hlength : d.values.length ≤ i := by rw [← hbalanced]; exact hle
      have hlength' : (d.values.set j w).length ≤ i := by simpa using hlength
      rw [set_eq_of_length_le hlength, set_eq_of_length_le hlength']
  exact congrArg (EdgeList.mk d.keys) (hvalues _ _ (findIdx_ne_or hd hab))

end EdgeList

namespace Coefficients

variable {coef : Coefficients}

theorem weight_of_zero {e : Edge} (h : ∀ c ∈ Datum.lookup coef e.1, c.int? = some 0) :
    coef.weight e = 0 := by
  rw [weight]
  cases hlook : Datum.lookup coef e.1 with
  | none => simp
  | some c => simp [h c hlook]

theorem total_setFirst {d : EdgeList} (hd : d.IsIntegral) {tgt : String}
    (hzero : ∀ c ∈ Datum.lookup coef (.str tgt), c.int? = some 0) (value : Datum) :
    coef.total (d.setFirst (.str tgt) value).edges = coef.total d.edges := by
  have hplain := hd.plain
  rw [← EdgeList.ofEdges_edges hd.balanced, EdgeList.edges_ofEdges]
  generalize d.edges = es at hplain
  induction es with
  | nil => rfl
  | cons e rest ih =>
    rw [forall_mem_cons] at hplain
    obtain ⟨⟨s, hs, -⟩, -⟩ := hplain.1
    cases hsame : e.1.same (.str tgt) with
    | true =>
      have hkey : e.1 = .str tgt := by
        rw [hs, Datum.same_str] at hsame
        rw [hs, eq_of_beq hsame]
      have hedge (x : Datum) : coef.weight (e.1, x) = 0 := weight_of_zero (by rwa [hkey])
      rw [EdgeList.setFirst_ofEdges_cons_same hsame, EdgeList.single_eq_ofEdges]
      have hedges : (EdgeList.ofEdges [(e.1, value)] ++ EdgeList.ofEdges rest).edges =
          (e.1, value) :: rest := EdgeList.edges_ofEdges ((e.1, value) :: rest)
      rw [hedges, total_cons, total_cons, hedge value, hedge e.2]
    | false =>
      rw [EdgeList.setFirst_ofEdges_cons_other hsame]
      have hedges :
          (EdgeList.single e.1 e.2 ++ (EdgeList.ofEdges rest).setFirst (.str tgt) value).edges =
          e :: ((EdgeList.ofEdges rest).setFirst (.str tgt) value).edges := rfl
      rw [hedges, total_cons, total_cons, ih hplain.2]

end Coefficients

namespace Hom

variable {d : EdgeList}

theorem apply_assign_of_covered (log : Bool) (tgt : String) {coef : Coefficients}
    (hcoef : coef.Integral) (inc : Int) (hd : d.IsIntegral) (hcover : coef.missing? d.keys = none) :
    ((Hom.assign (.str tgt) coef (.int inc)).apply log d).outcome =
      Traced.ifShown ((coef.written log (.str tgt) inc d.edges).all Datum.isDisplayable)
        (.ok (d.setFirst (.str tgt) (.int (inc + coef.total d.edges)))) := by
  rw [outcome_apply_assign_eq log tgt hcoef inc hd, Coefficients.checked, hcover]

theorem apply_assign_assign (log : Bool) (hd : d.IsIntegral) {s : String} (t : String)
    {a b : Coefficients} (ha : a.Integral) (hb : b.Integral) (hcoverA : a.missing? d.keys = none)
    (hcoverB : b.missing? d.keys = none)
    (hzero : ∀ c ∈ Datum.lookup b (.str s), c.int? = some 0) (i j : Int) :
    ((Hom.assign (.str s) a (.int i)).apply log d >>=
        (Hom.assign (.str t) b (.int j)).apply log).outcome =
      Traced.ifShown ((a.written log (.str s) i d.edges ++
          b.written log (.str t) j (d.setFirst (.str s) (.int (i + a.total d.edges))).edges).all
          Datum.isDisplayable)
        (.ok ((d.setFirst (.str s) (.int (i + a.total d.edges))).setFirst (.str t)
          (.int (j + b.total d.edges)))) := by
  have hfirst := apply_assign_of_covered log s ha i hd hcoverA
  have hcover : b.missing? (d.setFirst (.str s) (.int (i + a.total d.edges))).keys = none := hcoverB
  have hsecond := apply_assign_of_covered log t hb j (hd.setFirst (.str s) _) hcover
  rw [Coefficients.total_setFirst hd hzero] at hsecond
  rw [Traced.outcome_bind, hfirst, Traced.ifShown_bind, all_append, ← Traced.ifShown_ifShown,
    ← hsecond]
  rfl

/-- Assignments to different variables, neither of which weighs the target of the other, give both
targets the sums found in the path as it was, in either order.  An order fails exactly if it has to
write down a value with too many digits, so whatever the two orders give is the same path. -/
theorem apply_assign_comm (log : Bool) {d : EdgeList} (hd : d.IsIntegral) {s t : String}
    (hst : s ≠ t)
    {a b : Coefficients} (ha : a.Integral) (hb : b.Integral) (hcoverA : a.missing? d.keys = none)
    (hcoverB : b.missing? d.keys = none)
    (hzeroA : ∀ c ∈ Datum.lookup a (.str t), c.int? = some 0)
    (hzeroB : ∀ c ∈ Datum.lookup b (.str s), c.int? = some 0) (i j : Int) :
    let x := Datum.int (i + a.total d.edges)
    let y := Datum.int (j + b.total d.edges)
    ∃ n, n = (d.setFirst (.str s) x).setFirst (.str t) y ∧
      ((Hom.assign (.str t) b (.int j)).apply log d >>=
          (Hom.assign (.str s) a (.int i)).apply log).outcome =
        (if (b.written log (.str t) j d.edges ++
            a.written log (.str s) i (d.setFirst (.str t) y).edges).all Datum.isDisplayable
          then .ok n else .error .tooManyDigits) ∧
      ((Hom.assign (.str s) a (.int i)).apply log d >>=
          (Hom.assign (.str t) b (.int j)).apply log).outcome =
        (if (a.written log (.str s) i d.edges ++
            b.written log (.str t) j (d.setFirst (.str s) x).edges).all Datum.isDisplayable
          then .ok n else .error .tooManyDigits) := by
  intro x y
  have hnamed : ∀ k ∈ d.keys, ∃ s : String, k = .str s := fun k hk =>
    let ⟨s, hs, _⟩ := hd.named k hk
    ⟨s, hs⟩
  have hst' := apply_assign_assign log hd t ha hb hcoverA hcoverB hzeroB i j
  have hts := apply_assign_assign log hd s hb ha hcoverB hcoverA hzeroA j i
  rw [← EdgeList.setFirst_comm hd.balanced hnamed hst] at hts
  exact ⟨_, rfl, hts, hst'⟩

/-- The second target stands above the first one, and each sum counts the old value of its own
target. -/
theorem apply_assign_comm_neighbours :
    let d := EdgeList.ofEdges [(.str "y", .int 4), (.str "z", .int 3), (.str "x", .int 2)]
    let first := Hom.assign (.str "x")
      [(.str "x", .int 5), (.str "y", .int 0), (.str "z", .int 1)] (.int 7)
    let second := Hom.assign (.str "y")
      [(.str "x", .int 0), (.str "y", .int 2), (.str "z", .int (-1))] (.int 1)
    ∃ n, (second.apply true d >>= first.apply true).outcome = .ok n ∧
      (first.apply true d >>= second.apply true).outcome = .ok n ∧
      n = .ofEdges [(.str "y", .int 6), (.str "z", .int 3), (.str "x", .int 20)] := by
  intro d first second
  have hd : d.IsIntegral := by
    constructor
    · rfl
    · simp [d, EdgeList.ofEdges]
    · simp [d, EdgeList.ofEdges, Datum.int?]
  obtain ⟨n, hn, hsecond, hfirst⟩ := apply_assign_comm true hd (s := "x") (t := "y") (by decide)
    (a := [(.str "x", .int 5), (.str "y", .int 0), (.str "z", .int 1)])
    (b := [(.str "x", .int 0), (.str "y", .int 2), (.str "z", .int (-1))])
    (by simp [Coefficients.Integral, Datum.int?]) (by simp [Coefficients.Integral, Datum.int?])
    (by simp [d, Coefficients.missing?, EdgeList.ofEdges, Datum.lookup, Datum.same_str])
    (by simp [d, Coefficients.missing?, EdgeList.ofEdges, Datum.lookup, Datum.same_str])
    (by simp [Datum.lookup, Datum.same_str, Datum.int?])
    (by simp [Datum.lookup, Datum.same_str, Datum.int?]) 7 1
  rw [if_pos (by decide +kernel)] at hsecond hfirst
  refine ⟨n, hsecond, hfirst, hn.trans ?_⟩
  simp [d, Coefficients.total, Coefficients.weight, EdgeList.setFirst, EdgeList.edges,
    EdgeList.ofEdges,
    Datum.lookup, Datum.same_str, Datum.int?, findIdx_cons]

/-- Neither order gives a path, although both targets would keep their values: the first weight of
one assignment is too long to be shown, and the second one cancels it out. -/
theorem apply_assign_comm_long :
    let long := Int.ofNat (Nat.pow 10 2150)
    let a : Coefficients :=
      [(.str "a", .int long), (.str "b", .int long), (.str "x", .int 1), (.str "y", .int 0)]
    let b : Coefficients :=
      [(.str "a", .int 0), (.str "b", .int 0), (.str "x", .int 0), (.str "y", .int 1)]
    let d := EdgeList.ofEdges
      [(.str "a", .int long), (.str "b", .int (-long)), (.str "x", .int 0), (.str "y", .int 0)]
    let first := Hom.assign (.str "x") a (.int 0)
    let second := Hom.assign (.str "y") b (.int 0)
    a.missing? d.keys = none ∧ b.missing? d.keys = none ∧
      a.total d.edges = 0 ∧ b.total d.edges = 0 ∧
      (second.apply true d >>= first.apply true).outcome = .error .tooManyDigits ∧
      (first.apply true d >>= second.apply true).outcome = .error .tooManyDigits := by
  intro long a b d first second
  have ha : a.Integral := by simp [a, Coefficients.Integral, Datum.int?]
  have hb : b.Integral := by simp [b, Coefficients.Integral, Datum.int?]
  have hd : d.IsIntegral := by
    constructor
    · rfl
    · simp [d, EdgeList.ofEdges]
    · simp [d, EdgeList.ofEdges, Datum.int?]
  have hcoverA : a.missing? d.keys = none := by
    simp [a, d, Coefficients.missing?, EdgeList.ofEdges, Datum.lookup, Datum.same_str]
  have hcoverB : b.missing? d.keys = none := by
    simp [b, d, Coefficients.missing?, EdgeList.ofEdges, Datum.lookup, Datum.same_str]
  have hzeroA : ∀ c ∈ Datum.lookup a (.str "y"), c.int? = some 0 := by
    simp [a, Datum.lookup, Datum.same_str, Datum.int?]
  have hzeroB : ∀ c ∈ Datum.lookup b (.str "x"), c.int? = some 0 := by
    simp [b, Datum.lookup, Datum.same_str, Datum.int?]
  have hlong : (b.written true (.str "y") 0 d.edges ++ a.written true (.str "x") 0
      (d.setFirst (.str "y") (.int (0 + b.total d.edges))).edges).all Datum.isDisplayable =
        false := by
    decide +kernel
  have hlong' : (a.written true (.str "x") 0 d.edges ++ b.written true (.str "y") 0
      (d.setFirst (.str "x") (.int (0 + a.total d.edges))).edges).all Datum.isDisplayable =
        false := by
    decide +kernel
  refine ⟨hcoverA, hcoverB, by decide +kernel, by decide +kernel, ?_, ?_⟩
  · rw [apply_assign_assign true hd "x" hb ha hcoverB hcoverA hzeroA, hlong, Traced.ifShown_false]
  · rw [apply_assign_assign true hd "y" ha hb hcoverA hcoverB hzeroB, hlong', Traced.ifShown_false]

end Hom

end DataDiagram
