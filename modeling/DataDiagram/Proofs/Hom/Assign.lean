import DataDiagram.Proofs.Datum
import DataDiagram.Proofs.Hom.Context
import Mathlib.Algebra.Ring.Int.Defs
/-!
# Linear assignment

Assigning to a variable gives its first edge the sum of a constant and of all edges, each value
times the coefficient of its variable.  The application first walks down to the edge, then gathers
the edges below it and pushes each of them back under the new top; the sum is complete only at the
bottom.  The main statement says what comes out of an application on every path of integers, and
that it fails at the first variable without a coefficient, or where it has to show an integer with
too many digits, and nowhere else.
-/

namespace DataDiagram

open List

/-! ## What an assignment computes -/

namespace Coefficients

def Integral (coef : Coefficients) : Prop := ∀ c ∈ coef, ∃ n : Int, c.2.int? = some n

/-- The value of an edge times the coefficient of its variable. -/
def weight (coef : Coefficients) (e : Edge) : Int :=
  ((Datum.lookup coef e.1).bind Datum.int?).getD 0 * e.2.int?.getD 0

/-- The weights of some edges together. -/
def total (coef : Coefficients) (es : List Edge) : Int := (es.map coef.weight).sum

/-- The first of some variables that has no coefficient. -/
def missing? (coef : Coefficients) (keys : List Datum) : Option Datum :=
  keys.find? fun k => (Datum.lookup coef k).isNone

/-- The edges above the first one whose variable has no coefficient. -/
def covered (coef : Coefficients) (es : List Edge) : List Edge :=
  es.takeWhile fun e => (Datum.lookup coef e.1).isSome

/-- The sums so far, after each of some edges. -/
def sums (coef : Coefficients) : (inc : Int) → List Edge → List Int
  | _, [] => []
  | inc, e :: rest => (inc + coef.weight e) :: coef.sums (inc + coef.weight e) rest

/-- The values in the lines that are left along some edges: the coefficients, the sums so far and
what stands below. -/
def traced (coef : Coefficients) (inc : Int) (es : List Edge) : List Datum :=
  if (coef.covered es).isEmpty then []
  else .dict coef :: es.tail.map (·.2) ++ (coef.sums inc (coef.covered es)).map .int

/-- The values that are written down when some edges are gathered: those of the edges, and the whole
sum as soon as an edge is pushed back under it. -/
def gathered (coef : Coefficients) (log : Bool) (inc : Int) (es : List Edge) : List Datum :=
  (coef.covered es).map (·.2) ++
    (if (coef.missing? (es.map (·.1))).isNone && !es.isEmpty then [.int (inc + coef.total es)]
      else []) ++
    (if log then coef.traced inc es else [])

/-- The values that an assignment to `tgt` writes down: those of all edges down to the first
variable without a coefficient, but for the first one of the target, and the whole sum if edges are
pushed back under it. -/
def written (coef : Coefficients) (log : Bool) (tgt : Datum) (inc : Int) (es : List Edge) :
    List Datum :=
  ((coef.covered es).eraseP fun e => e.1.same tgt).map (·.2) ++
    (if (coef.missing? (es.map (·.1))).isNone && es.dropLast.any (fun e => e.1.same tgt)
      then [.int (inc + coef.total es)] else []) ++
    (if log then coef.traced inc es else [])

end Coefficients

namespace EdgeList

/-- A path of integers: every variable is a text without braces, and has an integer as value. -/
structure IsIntegral (d : EdgeList) : Prop where
  balanced : d.Balanced
  named : ∀ k ∈ d.keys, ∃ s : String, k = .str s ∧ Text.Braceless s.toList
  integral : ∀ v ∈ d.values, ∃ n : Int, v.int? = some n

/-- The path in which the first edge of a variable has another value. -/
def setFirst (d : EdgeList) (key value : Datum) : EdgeList :=
  ⟨d.keys, d.values.set (d.keys.findIdx fun k => k.same key) value⟩

variable {d : EdgeList}

theorem IsIntegral.plain (hd : d.IsIntegral) : ∀ e ∈ d.edges, Edge.Plain e :=
  fun _ he => ⟨hd.named _ (of_mem_zip he).1, hd.integral _ (of_mem_zip he).2⟩

variable {key : Datum} {e : Edge}

theorem setFirst_of_notMem (hd : d.Balanced)
    (hkey : ∀ k ∈ d.keys, k.same key = false) (value : Datum) : d.setFirst key value = d := by
  have hend : d.keys.findIdx (fun k => k.same key) = d.keys.length :=
    findIdx_eq_length.2 hkey
  rw [setFirst, hend, hd, set_eq_of_length_le (Nat.le_refl _)]

theorem single_eq_ofEdges (key value : Datum) : single key value = ofEdges [(key, value)] := rfl

theorem setFirst_ofEdges_cons_same (he : e.1.same key = true) (rest : List Edge) (value : Datum) :
    (ofEdges (e :: rest)).setFirst key value = single e.1 value ++ ofEdges rest := by
  simp [setFirst, ofEdges, findIdx_cons, he]
  rfl

theorem setFirst_ofEdges_cons_other (he : e.1.same key = false) (rest : List Edge) (value : Datum) :
    (ofEdges (e :: rest)).setFirst key value =
      single e.1 e.2 ++ (ofEdges rest).setFirst key value := by
  simp [setFirst, ofEdges, findIdx_cons, he]
  rfl

end EdgeList

/-! ## One edge -/

namespace Coefficients

variable {coef : Coefficients} {e : Edge} {rest : List Edge} {inc : Int}

theorem total_cons : coef.total (e :: rest) = coef.weight e + coef.total rest := by
  simp [total]

theorem add_total_cons (inc : Int) :
    inc + coef.total (e :: rest) = inc + coef.weight e + coef.total rest := by
  rw [total_cons, Int.add_assoc]

variable {c : Datum}

theorem Integral.lookup (hcoef : coef.Integral) {k : Datum} (h : Datum.lookup coef k = some c) :
    ∃ n : Int, c.int? = some n := by
  induction coef with
  | nil => simp [Datum.lookup] at h
  | cons entry coef ih =>
    rw [Datum.lookup] at h
    split at h
    · cases h
      exact hcoef entry mem_cons_self
    · exact ih (fun c hc => hcoef c (mem_cons_of_mem _ hc)) h

theorem weigh_missing (he : e.Plain) (h : Datum.lookup coef e.1 = none) :
    coef.weigh e.1 e.2 (.int inc) = .error (.noCoefficient e.1) := by
  obtain ⟨⟨s, hs, -⟩, -⟩ := he
  have hhash : e.1.unhashable? = none := by rw [hs]; rfl
  rw [weigh, hhash]
  simp only [h]

/-- Weighing an edge adds its weight. -/
theorem weigh_covered (he : e.Plain) (hcoef : coef.Integral) (h : Datum.lookup coef e.1 = some c) :
    coef.weigh e.1 e.2 (.int inc) = .ok (.int (inc + coef.weight e)) := by
  obtain ⟨⟨s, hs, -⟩, x, hx⟩ := he
  obtain ⟨k, hk⟩ := hcoef.lookup h
  have hhash : e.1.unhashable? = none := by rw [hs]; rfl
  have hweight : coef.weight e = k * x := by simp [weight, h, hk, hx]
  have hmul : e.2.mul c = .ok (.int (x * k)) := by
    rw [Datum.mul, Datum.number?_of_int? hx, Datum.number?_of_int? hk]
    rfl
  have hadd : (Datum.int (x * k)).add (.int inc) = .ok (.int (x * k + inc)) := rfl
  rw [weigh, hhash]
  simp only [h, hmul]
  rw [hweight, Int.add_comm inc, Int.mul_comm k]
  simp [bind, Except.bind, hadd, Except.mapError]

theorem missing?_cons_none {e : Datum} (h : Datum.lookup coef e = none) (rest : List Datum) :
    coef.missing? (e :: rest) = some e := by
  simp [missing?, h]

/-- A path, if all of some variables have coefficients. -/
def checked (coef : Coefficients) (keys : List Datum) (d : EdgeList) : Except ApplyError EdgeList :=
  match coef.missing? keys with
  | some k => .error (.weight (.noCoefficient k))
  | none => .ok d

theorem checked_cons {e : Datum} (h : Datum.lookup coef e = some c) (rest : List Datum)
    (d : EdgeList) : coef.checked (e :: rest) d = coef.checked rest d := by
  simp [checked, missing?, h]

theorem checked_bind (coef : Coefficients) (keys : List Datum) {d d' : EdgeList}
    (f : EdgeList → Except ApplyError EdgeList) {shown : Bool}
    (h : f d = Traced.ifShown shown (.ok d')) : (coef.checked keys d).bind f =
      Traced.ifShown ((coef.missing? keys).isSome || shown) (coef.checked keys d') := by
  unfold checked
  cases coef.missing? keys with
  | some k => rfl
  | none => exact h

theorem checked_bind_ok {keys : List Datum} {d d' : EdgeList}
    {f : EdgeList → Except ApplyError EdgeList} (h : f d = .ok d') :
    (coef.checked keys d).bind f = coef.checked keys d' := by
  unfold checked
  cases coef.missing? keys with
  | some k => rfl
  | none => exact h

/-! ## What is written down -/

theorem missing?_cons_some {e : Datum} (h : Datum.lookup coef e = some c) (rest : List Datum) :
    coef.missing? (e :: rest) = coef.missing? rest := by
  simp [missing?, h]

theorem covered_cons_none (h : Datum.lookup coef e.1 = none) (rest : List Edge) :
    coef.covered (e :: rest) = [] := by
  simp [covered, h]

theorem covered_cons_some (h : Datum.lookup coef e.1 = some c) (rest : List Edge) :
    coef.covered (e :: rest) = e :: coef.covered rest := by
  simp [covered, h]

/-- What an edge and those below it add to the lines. -/
def lineOf (coef : Coefficients) (log : Bool) (sum : Int) (rest : List Edge) : Bool :=
  !log || ((Datum.dict coef).isDisplayable && (Datum.int sum).isDisplayable &&
    rest.all fun e => e.2.isDisplayable)

theorem all_traced_cons (h : Datum.lookup coef e.1 = some c) (log : Bool) :
    (if log then coef.traced inc (e :: rest) else []).all Datum.isDisplayable =
      (coef.lineOf log (inc + coef.weight e) rest &&
        (if log then coef.traced (inc + coef.weight e) rest else []).all Datum.isDisplayable) := by
  cases log with
  | false => rfl
  | true =>
    simp only [traced, lineOf, covered_cons_some h, sums, if_true]
    generalize Datum.isDisplayable = shown
    have hbelow (hall : ∀ e ∈ rest, shown e.2 = true) : ∀ e ∈ rest.tail, shown e.2 = true :=
      fun e he => hall e (mem_of_mem_tail he)
    rw [Bool.eq_iff_iff]
    cases hcovered : coef.covered rest with
    | nil =>
      simp only [isEmpty_cons, isEmpty_nil, sums, Bool.false_eq_true, if_false, if_true, tail_cons,
        all_cons, all_append, all_map, all_nil, map_nil, map_cons, Bool.and_true, Bool.and_eq_true,
        Bool.not_true, Bool.false_or, all_eq_true, Function.comp]
      grind
    | cons a below =>
      simp only [isEmpty_cons, Bool.false_eq_true, if_false, tail_cons, all_cons, all_append,
        all_map,
        map_cons, Bool.and_eq_true, Bool.not_true, Bool.false_or, all_eq_true, Function.comp]
      grind

theorem all_gathered_cons (h : Datum.lookup coef e.1 = some c) (log : Bool) :
    (coef.gathered log inc (e :: rest)).all Datum.isDisplayable =
      (e.2.isDisplayable && coef.lineOf log (inc + coef.weight e) rest &&
        ((coef.missing? (rest.map (·.1))).isSome ||
          (Datum.int (inc + coef.total (e :: rest))).isDisplayable) &&
        (coef.gathered log (inc + coef.weight e) rest).all Datum.isDisplayable) := by
  rw [gathered, gathered, all_append, all_append, all_append, all_append, all_traced_cons h,
    covered_cons_some h, map_cons, map_cons, missing?_cons_some h, add_total_cons]
  generalize Datum.isDisplayable = shown
  rw [Bool.eq_iff_iff]
  cases coef.missing? (rest.map (·.1)) <;> cases rest.isEmpty <;> simp <;> grind

end Coefficients

/-! ## The walk -/

namespace Hom

open Text (OneHole Braceless)

variable {coef : Coefficients} {ctx : Context} {es : List Edge}

theorem isDisplayable_ofEdges (hes : ∀ e ∈ es, Edge.Plain e) :
    (EdgeList.ofEdges es).isDisplayable = es.all fun e => e.2.isDisplayable := by
  rw [EdgeList.isDisplayable, EdgeList.edges_ofEdges]
  rw [Bool.eq_iff_iff, all_eq_true, all_eq_true]
  refine forall₂_congr fun e he => ?_
  obtain ⟨⟨s, hs, -⟩, -⟩ := hes e he
  rw [hs, Datum.isDisplayable_str, Bool.true_and]

/-- Pushing an edge puts it right below the top. -/
theorem outcome_applyPush (hctx : OneHole ctx) {top e : Edge} (htop : top.Plain)
    (he : e.Plain) (log : Bool) {rest : List Edge} (hrest : ∀ e ∈ rest, Edge.Plain e) :
    (applyPush log e.1 e.2 ctx (.ofEdges (top :: rest))).outcome =
      Traced.ifShown (top.2.isDisplayable && e.2.isDisplayable &&
          (!log || rest.all fun e => e.2.isDisplayable))
        (.ok (.ofEdges (top :: e :: rest))) := by
  have hplain : ∀ a ∈ [top, e], Edge.Plain a := by simp [htop, he]
  have htail : (EdgeList.ofEdges (top :: rest)).tail = .ofEdges rest := by
    rw [EdgeList.tail, EdgeList.edges_ofEdges, tail_cons]
  have hline : Context.canTrace log .identity (.ofEdges rest) =
      (!log || rest.all fun e => e.2.isDisplayable) := by
    rw [Context.canTrace, isDisplayable_ofEdges hrest]
    rfl
  have hshown : (EdgeList.ofEdges [top, e]).isDisplayable =
      (top.2.isDisplayable && e.2.isDisplayable) := by
    rw [isDisplayable_ofEdges hplain]
    simp
  show (do
    let ctx ← ctx.afterEdges (.ofEdges [top, e])
    ctx.trace log .identity (EdgeList.ofEdges (top :: rest)).tail
    return EdgeList.ofEdges [top, e] ++ (EdgeList.ofEdges (top :: rest)).tail :
      Traced EdgeList).outcome = _
  rw [htail, Context.outcome_afterEdges_bind hctx (EdgeList.braceless_text hplain)
    fun ctx' hctx' => Context.outcome_trace_bind hctx' .., hline, hshown, Traced.ifShown_ifShown]
  rfl

theorem outcome_applyGather (hctx : OneHole ctx) (hcoef : coef.Integral)
    {tgt : String} (htgt : Braceless tgt.toList) (hes : ∀ e ∈ es, Edge.Plain e)
    (log : Bool) (inc : Int) :
    (applyGather log (.str tgt) coef (.int inc) ctx es).outcome =
      Traced.ifShown ((coef.gathered log inc es).all Datum.isDisplayable)
        (coef.checked (es.map (·.1))
          (.ofEdges ((.str tgt, .int (inc + coef.total es)) :: es))) := by
  induction es generalizing inc ctx with
  | nil =>
    have htotal : inc + coef.total [] = inc := by simp [Coefficients.total]
    rw [htotal]
    cases log <;> rfl
  | cons e rest ih =>
    have he : e.Plain := hes e mem_cons_self
    have hrest : ∀ e ∈ rest, Edge.Plain e := fun a ha => hes a (mem_cons_of_mem e ha)
    obtain ⟨s, hs, -⟩ := he.1
    rw [applyGather, map_cons]
    cases hlook : Datum.lookup coef e.1 with
    | none =>
      rw [Coefficients.weigh_missing he hlook, Coefficients.checked,
        Coefficients.missing?_cons_none hlook]
      simp [Coefficients.gathered, Coefficients.traced, Coefficients.covered_cons_none hlook,
        Coefficients.missing?_cons_none hlook]
    | some c =>
      -- The edge comes back under the target, which the edges below have put on top.
      have htop : Edge.Plain (.str tgt, .int (inc + coef.total (e :: rest))) :=
        ⟨⟨tgt, rfl, htgt⟩, _, rfl⟩
      have hback (inner : Context) (hinner : OneHole inner) :
          (applyGather log (.str tgt) coef (.int (inc + coef.weight e)) inner rest >>=
            applyPush log e.1 e.2 ctx).outcome =
          Traced.ifShown ((coef.gathered log (inc + coef.weight e) rest).all Datum.isDisplayable &&
              ((coef.missing? (rest.map (·.1))).isSome ||
                ((Datum.int (inc + coef.total (e :: rest))).isDisplayable && e.2.isDisplayable &&
                  (!log || rest.all fun e => e.2.isDisplayable))))
            (coef.checked (rest.map (·.1))
              (.ofEdges ((.str tgt, .int (inc + coef.total (e :: rest))) :: e :: rest))) := by
        have hpush := coef.checked_bind (rest.map (·.1))
          (fun n => (applyPush log e.1 e.2 ctx n).outcome)
            (outcome_applyPush hctx htop he log hrest)
        rw [Traced.outcome_bind, ih hinner hrest, ← Coefficients.add_total_cons,
          Traced.ifShown_bind, hpush, Traced.ifShown_ifShown]
      have hline : Context.canTrace log
          (.compose (.push e.1 e.2) (.gather (.str tgt) coef (.int (inc + coef.weight e))))
          (.ofEdges rest) =
          (!log || (e.2.isDisplayable && coef.lineOf true (inc + coef.weight e) rest)) := by
        simp only [Context.canTrace, isDisplayable_ofEdges hrest, hs, isDisplayable,
          Datum.isDisplayable_str, Coefficients.lineOf, Bool.true_and, Bool.not_true, Bool.false_or,
          Bool.and_assoc]
      have hpush : (push e.1 e.2).isDisplayable = e.2.isDisplayable := by
        rw [hs, isDisplayable, Datum.isDisplayable_str, Bool.true_and]
      rw [Coefficients.weigh_covered he hcoef hlook, Coefficients.checked_cons hlook,
        Coefficients.all_gathered_cons hlook]
      dsimp only
      rw [Context.outcome_trace_bind hctx, Context.outcome_inside_bind hctx he.braceless_push hback,
        Traced.ifShown_ifShown, Traced.ifShown_ifShown, hline, hpush]
      congr 1
      simp only [Coefficients.lineOf]
      generalize (Datum.int (inc + coef.weight e)).isDisplayable = sum
      generalize (Datum.int (inc + coef.total (e :: rest))).isDisplayable = total
      cases log <;> grind

theorem all_written_of_same {e : Edge} {rest : List Edge} {c : Datum} {tgt : Datum}
    (hlook : Datum.lookup coef e.1 = some c) (hsame : e.1.same tgt = true) (log : Bool)
    (inc : Int) : (coef.written log tgt inc (e :: rest)).all Datum.isDisplayable =
      (coef.lineOf log (inc + coef.weight e) rest &&
        (coef.gathered log (inc + coef.weight e) rest).all Datum.isDisplayable) := by
  have hbelow : (e :: rest).dropLast.any (fun a => a.1.same tgt) = !rest.isEmpty := by
    cases rest <;> simp [hsame]
  have herase : (coef.covered (e :: rest)).eraseP (fun a => a.1.same tgt) = coef.covered rest := by
    rw [Coefficients.covered_cons_some hlook]
    exact eraseP_cons_of_pos hsame
  rw [Coefficients.written, Coefficients.gathered, all_append, all_append, all_append, all_append,
    Coefficients.all_traced_cons hlook, map_cons, Coefficients.missing?_cons_some hlook, hbelow,
    herase, Coefficients.add_total_cons]
  ac_rfl

theorem all_written_of_other {e : Edge} {rest : List Edge} {c : Datum} {tgt : Datum}
    (hlook : Datum.lookup coef e.1 = some c) (hsame : e.1.same tgt = false) (log : Bool)
    (inc : Int) : (coef.written log tgt inc (e :: rest)).all Datum.isDisplayable =
      (e.2.isDisplayable && coef.lineOf log (inc + coef.weight e) rest &&
        (coef.written log tgt (inc + coef.weight e) rest).all Datum.isDisplayable) := by
  have hbelow : (e :: rest).dropLast.any (fun a => a.1.same tgt) =
      rest.dropLast.any fun a => a.1.same tgt := by
    cases rest <;> simp [hsame]
  have herase : (coef.covered (e :: rest)).eraseP (fun a => a.1.same tgt) =
      e :: (coef.covered rest).eraseP fun a => a.1.same tgt := by
    rw [Coefficients.covered_cons_some hlook]
    exact eraseP_cons_of_neg (by simp [hsame])
  rw [Coefficients.written, Coefficients.written, all_append, all_append, all_append, all_append,
    Coefficients.all_traced_cons hlook, map_cons, Coefficients.missing?_cons_some hlook, hbelow,
    herase, Coefficients.add_total_cons, map_cons, all_cons]
  ac_rfl

/-- Assigning walks down to the first edge of the target, adding up weights, and gathers from
there. -/
theorem outcome_applyAssign (hctx : OneHole ctx) (hcoef : coef.Integral)
    (tgt : String) (hes : ∀ e ∈ es, Edge.Plain e) (log : Bool) (inc : Int) :
    (applyAssign log (.str tgt) coef (.int inc) ctx es).outcome =
      Traced.ifShown ((coef.written log (.str tgt) inc es).all Datum.isDisplayable)
        (coef.checked (es.map (·.1))
          ((EdgeList.ofEdges es).setFirst (.str tgt) (.int (inc + coef.total es)))) := by
  induction es generalizing inc ctx with
  | nil => cases log <;> rfl
  | cons e rest ih =>
    have he : e.Plain := hes e mem_cons_self
    have hrest : ∀ e ∈ rest, Edge.Plain e := fun a ha => hes a (mem_cons_of_mem e ha)
    rw [applyAssign, map_cons]
    cases hlook : Datum.lookup coef e.1 with
    | none =>
      rw [Coefficients.weigh_missing he hlook, Coefficients.checked,
        Coefficients.missing?_cons_none hlook]
      simp [Coefficients.written, Coefficients.traced, Coefficients.covered_cons_none hlook,
        Coefficients.missing?_cons_none hlook]
    | some c =>
      have hline (h : Hom) (hh : h.isDisplayable =
          ((Datum.dict coef).isDisplayable && (Datum.int (inc + coef.weight e)).isDisplayable)) :
          Context.canTrace log h (.ofEdges rest) = coef.lineOf log (inc + coef.weight e) rest := by
        rw [Context.canTrace, isDisplayable_ofEdges hrest, hh]
        rfl
      rw [Coefficients.weigh_covered he hcoef hlook, Coefficients.checked_cons hlook,
        Coefficients.add_total_cons]
      obtain ⟨s, hs, hbraces⟩ := he.1
      cases hsame : e.1.same (.str tgt) with
      | true =>
        obtain rfl : s = tgt := by
          rw [hs, Datum.same_str] at hsame
          exact eq_of_beq hsame
        rw [all_written_of_same hlook hsame, EdgeList.setFirst_ofEdges_cons_same hsame, hs]
        dsimp only
        rw [if_pos (by simp), Context.outcome_trace_bind hctx, hline _ (by rfl),
          outcome_applyGather hctx hcoef hbraces hrest, Traced.ifShown_ifShown]
        rfl
      | false =>
        have hplain : ∀ a ∈ [e], Edge.Plain a := by simpa using he
        have htext : Braceless (EdgeList.single e.1 e.2).text.toList := by
          rw [EdgeList.single_eq_ofEdges]
          exact EdgeList.braceless_text hplain
        have hshown : (EdgeList.single e.1 e.2).isDisplayable = e.2.isDisplayable := by
          rw [EdgeList.single_eq_ofEdges, isDisplayable_ofEdges hplain]
          simp
        have hwalk (ctx' : Context) (hctx' : OneHole ctx') :
            (do
              ctx'.trace log (.assign (.str tgt) coef (.int (inc + coef.weight e))) (.ofEdges rest)
              let n ← applyAssign log (.str tgt) coef (.int (inc + coef.weight e)) ctx' rest
              return EdgeList.single e.1 e.2 ++ n : Traced EdgeList).outcome =
            Traced.ifShown (coef.lineOf log (inc + coef.weight e) rest &&
                (coef.written log (.str tgt) (inc + coef.weight e) rest).all Datum.isDisplayable)
              (coef.checked (rest.map (·.1)) (EdgeList.single e.1 e.2 ++
                (EdgeList.ofEdges rest).setFirst (.str tgt)
                  (.int (inc + coef.weight e + coef.total rest)))) := by
          rw [Context.outcome_trace_bind hctx', hline _ (by rfl), Traced.outcome_bind,
            ih hctx' hrest,
            Traced.ifShown_bind, Traced.ifShown_ifShown]
          exact congrArg _ (Coefficients.checked_bind_ok rfl)
        rw [all_written_of_other hlook hsame, EdgeList.setFirst_ofEdges_cons_other hsame]
        dsimp only
        rw [if_neg (by simp), Context.outcome_afterEdges_bind hctx htext hwalk, hshown,
          Traced.ifShown_ifShown, Bool.and_assoc]

theorem outcome_edgesOf {d : EdgeList} (hd : d.Balanced) : (edgesOf d).outcome = .ok d.edges := by
  obtain ⟨keys, values⟩ := d
  cases keys with
  | nil => rfl
  | cons k keys =>
    cases values with
    | nil => simp [EdgeList.Balanced] at hd
    | cons v values => rfl

theorem outcome_apply_assign_eq (log : Bool) (tgt : String) {coef : Coefficients}
    (hcoef : coef.Integral) (inc : Int) {d : EdgeList} (hd : d.IsIntegral) :
    ((Hom.assign (.str tgt) coef (.int inc)).apply log d).outcome =
      Traced.ifShown ((coef.written log (.str tgt) inc d.edges).all Datum.isDisplayable)
        (coef.checked d.keys (d.setFirst (.str tgt) (.int (inc + coef.total d.edges)))) := by
  have hwalk := outcome_applyAssign Context.oneHole_hole hcoef tgt hd.plain log inc
  have hkeys : d.edges.map (·.1) = d.keys := map_fst_zip (Nat.le_of_eq hd.balanced)
  rw [EdgeList.ofEdges_edges hd.balanced, hkeys] at hwalk
  rw [apply, applyIn, Traced.outcome_bind_of_ok (outcome_edgesOf hd.balanced), hwalk]

/-- On a path of integers an assignment changes the first edge of its target only, which gets the
constant and the weights of all edges.  It fails if a variable has no coefficient, at the first one,
unless it first has to write down a value with too many digits, which is all else that it can fail
at. -/
theorem outcome_apply_assign (log : Bool) (tgt : String) {coef : Coefficients}
    (hcoef : coef.Integral) (inc : Int) {d : EdgeList} (hd : d.IsIntegral) :
    ((Hom.assign (.str tgt) coef (.int inc)).apply log d).outcome =
        (if (coef.written log (.str tgt) inc d.edges).all Datum.isDisplayable then
          match coef.missing? d.keys with
          | some k => .error (.weight (.noCoefficient k))
          | none => .ok (d.setFirst (.str tgt) (.int (inc + coef.total d.edges)))
        else .error .tooManyDigits) ∧
      ((∀ k ∈ d.keys, k.same (.str tgt) = false) →
        d.setFirst (.str tgt) (.int (inc + coef.total d.edges)) = d) := by
  refine ⟨?_, fun htgt => EdgeList.setFirst_of_notMem hd.balanced htgt _⟩
  rw [outcome_apply_assign_eq log tgt hcoef inc hd]
  rfl

/-- The sum counts the old value of the target and what stands below it, also under its own name. -/
theorem outcome_apply_assign_repeated :
    ((Hom.assign (.str "x") [(.str "y", .int (-1)), (.str "x", .int 2)] (.int 5)).apply true
      ⟨[.str "y", .str "x", .str "x"], [.int 4, .bool true, .int 3]⟩).outcome =
        .ok ⟨[.str "y", .str "x", .str "x"], [.int 4, .int 9, .int 3]⟩ := by
  have hcoef : Coefficients.Integral [(.str "y", .int (-1)), (.str "x", .int 2)] := by
    simp [Coefficients.Integral, Datum.int?]
  have hd : EdgeList.IsIntegral
      ⟨[.str "y", .str "x", .str "x"], [.int 4, .bool true, .int 3]⟩ := by
    constructor
    · rfl
    · simp
    · simp [Datum.int?]
  have hshown : (Coefficients.written [(.str "y", .int (-1)), (.str "x", .int 2)] true (.str "x") 5
      (EdgeList.edges ⟨[.str "y", .str "x", .str "x"], [.int 4, .bool true, .int 3]⟩)).all
        Datum.isDisplayable = true := by
    decide +kernel
  rw [(outcome_apply_assign true "x" hcoef 5 hd).1, if_pos hshown]
  simp [Coefficients.missing?, Coefficients.total, Coefficients.weight, EdgeList.setFirst,
    EdgeList.edges, Datum.lookup, Datum.same_str, Datum.int?, findIdx_cons]

/-- Two weights that cancel out, the first of which is the sum in the first line. -/
theorem outcome_apply_assign_long :
    let long := Int.ofNat (Nat.pow 10 2150)
    let coef : Coefficients := [(.str "a", .int long), (.str "b", .int long), (.str "x", .int 1)]
    let d := EdgeList.ofEdges [(.str "a", .int long), (.str "b", .int (-long)), (.str "x", .int 0)]
    coef.missing? d.keys = none ∧ d.setFirst (.str "x") (.int (0 + coef.total d.edges)) = d ∧
      ((Hom.assign (.str "x") coef (.int 0)).apply true d).outcome = .error .tooManyDigits := by
  intro long coef d
  have hcoef : coef.Integral := by simp [coef, Coefficients.Integral, Datum.int?]
  have hd : d.IsIntegral := by
    constructor
    · rfl
    · simp [d, EdgeList.ofEdges]
    · simp [d, EdgeList.ofEdges, Datum.int?]
  have hlong : (coef.written true (.str "x") 0 d.edges).all Datum.isDisplayable = false := by
    decide +kernel
  refine ⟨?_, ?_, ?_⟩
  · simp [coef, d, Coefficients.missing?, EdgeList.ofEdges, Datum.lookup, Datum.same_str]
  · have htotal : coef.total d.edges = 0 := by decide +kernel
    rw [htotal]
    simp [d, EdgeList.setFirst, EdgeList.ofEdges, Datum.same_str, findIdx_cons]
  · rw [outcome_apply_assign_eq true "x" hcoef 0 hd, hlong, Traced.ifShown_false]

end Hom

end DataDiagram
