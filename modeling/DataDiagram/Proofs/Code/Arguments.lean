import DataDiagram.Proofs.Code.Straight
/-!
# Arguments and the values of arguments

An argument stands in the body as it is written, so that it is evaluated where its parameter is
read.  That is the value it had at the call as long as no variable of the argument has been assigned
by then.  A parameter that is read later sees what the body has made of the variables.
-/

namespace DataDiagram

open List

namespace Code

/-- What stands for a name mentions none of some variables. -/
def Settled (args : Substitution) (touched : List String) (x : String) : Prop :=
  ∀ a, args x = some a → Arith (· ∉ touched) a

/-- `Steady args touched body` says that no parameter is read in `body` once a variable that its
argument mentions has been assigned; those in `touched` have been assigned before. -/
def Steady (args : Substitution) : List String → List Code → Prop
  | touched, .assign _ (nameOf _ x) v _ :: rest =>
    Arith (Settled args touched) v ∧ Steady args (x :: touched) rest
  | touched, .ret _ v :: _ => Arith (Settled args touched) v
  | touched, _ :: rest => Steady args touched rest
  | _, [] => True

/-- `Freezes I s₀ a k` says that `k` always has the value that `a` has where the variables are
`s₀`. -/
def Freezes (I : Operators) (s₀ : Valuation) (a k : Code) : Prop :=
  ∃ n, a.eval I s₀ = some n ∧ ∀ s, k.eval I s = some n

variable {I : Operators} {s₀ s : Valuation} {args consts : Substitution} {touched : List String}

theorem Settled.look_eq (hfreeze : ∀ x, Option.Rel (Freezes I s₀) (args x) (consts x))
    (hs : ∀ x ∉ touched, s x = s₀ x) {x : String} (hx : Settled args touched x) :
    args.look I s x = consts.look I s x := by
  have hrel := hfreeze x
  unfold Substitution.look
  generalize ha : args x = o, hk : consts x = o' at hrel ⊢
  cases hrel with
  | none => rfl
  | @some a k hfreezes =>
    obtain ⟨n, hn, hconst⟩ := hfreezes
    have heval : a.eval I s = some n := ((hx a ha).eval_congr hs).trans hn
    simp only [heval, hconst]

/-- The values of arguments can stand for the arguments where the body is steady. -/
theorem Straight.effect_eq {body : List Code} {y : String} (h : Straight body)
    (hfreeze : ∀ x, Option.Rel (Freezes I s₀) (args x) (consts x))
    (hsteady : Steady args touched body) (hs : ∀ x ∉ touched, s x = s₀ x) :
    effect I (args.look I) id y body s = effect I (consts.look I) id y body s := by
  -- The two runs stay in the same state, which has changed in the touched variables only.
  induction h generalizing touched s with
  | pass _ ih => exact ih hsteady hs
  | @assign r t x v aug rest hv _ ih =>
    obtain ⟨hvalue, hrest⟩ := hsteady
    have heval : v.eval I (args.look I s) = v.eval I (consts.look I s) :=
      hvalue.eval_congr fun z hz => hz.look_eq hfreeze hs
    rw [effect, effect, heval]
    refine ih hrest fun z hz => ?_
    rw [mem_cons, not_or] at hz
    rw [id, store_of_ne hz.1, hs z hz.2]
  | @ret r v hv =>
    have heval : v.eval I (args.look I s) = v.eval I (consts.look I s) :=
      hsteady.eval_congr fun z hz => hz.look_eq hfreeze hs
    rw [effect, effect, heval]

theorem rel_ofArguments {R : Code → Code → Prop} {as ks : List Code} (h : List.Forall₂ R as ks)
    (params : List String) (x : String) :
    Option.Rel R (Substitution.ofArguments (params.map text) as x)
      (Substitution.ofArguments (params.map text) ks x) := by
  induction params generalizing as ks with
  | nil => exact .none
  | cons p params ih =>
    cases h with
    | nil => exact .none
    | @cons a k as ks hr hrest =>
      rw [ofArguments_cons, ofArguments_cons]
      have hrel := ih hrest
      generalize Substitution.ofArguments (params.map text) as x = o,
        Substitution.ofArguments (params.map text) ks x = o' at hrel ⊢
      cases hrel with
      | some hr' => exact .some hr'
      | none =>
        by_cases hp : p = x
        · simpa [hp] using hr
        · simp [hp]

/-- Constants with some values. -/
def constants (r : Option Origin) (vals : List Int) : List Code :=
  vals.map fun n => constOf r (.int n)

theorem exists_freezes {as : List Code} (h : ∀ a ∈ as, Arith (fun _ => True) a) (I : Operators)
    (s₀ : Valuation) (r : Option Origin) :
    ∃ vals, evalAll I s₀ as = some vals ∧ List.Forall₂ (Freezes I s₀) as (constants r vals) := by
  induction as with
  | nil => exact ⟨[], rfl, .nil⟩
  | cons a as ih =>
    rw [forall_mem_cons] at h
    obtain ⟨n, hn⟩ := h.1.exists_eval I s₀
    obtain ⟨vals, hvals, hfreeze⟩ := ih h.2
    refine ⟨n :: vals, ?_, .cons ⟨n, hn, fun _ => rfl⟩ hfreeze⟩
    rw [evalAll, hn, hvals]
    rfl

theorem arith_constants (r : Option Origin) (vals : List Int) :
    ∀ k ∈ constants r vals, Arith (fun _ => True) k := by
  intro k hk
  obtain ⟨n, -, rfl⟩ := mem_map.1 hk
  exact .const rfl

end Code

namespace Func

open Code

/-- Where no parameter is read after an assignment to a variable of its argument, a call with
arguments and the call with their values are replaced by statements that do the same: they end in
one state. -/
theorem exec_call_values (I : Operators) {defs : List Func} {f : Func} (hlocals : f.locals = [])
    {b : Option Origin} {body : List Code} (hbody : f.body = .block b body)
    (hstraight : Straight body) {args : List Code} (hargs : ∀ a ∈ args, Arith (fun _ => True) a)
    (hsteady : Steady (.ofArguments (f.args.map text) args) [] body) (t r : Option Origin)
    (y : String) {out : List Code} (h : f.call defs args (some (nameOf t y)) none [] = .ok out)
    (s : Valuation) :
    ∃ vals out' s', evalAll I s args = some vals ∧
      f.call defs (constants r vals) (some (nameOf t y)) none [] = .ok out' ∧
      (∀ e s₂, Exec I defs .empty out s e s₂ ↔ e = .fell ∧ s₂ = s') ∧
      ∀ e s₂, Exec I defs .empty out' s e s₂ ↔ e = .fell ∧ s₂ = s' := by
  obtain ⟨harity, hb, scope, hscope, hout⟩ := (call_eq_ok_iff hbody hstraight).1 h
  have hrenames : (Substitution.ofList scope).Renames id := by
    rw [hlocals] at hscope
    cases hscope
    exact fun x => .inl ⟨rfl, rfl⟩
  obtain ⟨vals, hvals, hfreeze⟩ := exists_freezes hargs I s r
  have hm := isArith_ofArguments hargs f.args
  have hm' := isArith_ofArguments (arith_constants r vals) f.args
  obtain ⟨out', hout'⟩ := hstraight.exists_inlineBody hrenames hm hm' hout
  have hcount : (constants r vals).length = f.args.length := hfreeze.length_eq.symm.trans harity
  have hcall' : f.call defs (constants r vals) (some (nameOf t y)) none [] = .ok out' :=
    (call_eq_ok_iff hbody hstraight).2 ⟨hcount, hb, scope, hscope, hout'⟩
  have hexec := hstraight.exec_inlineBody I defs hrenames hm hout s
  have hexec' := hstraight.exec_inlineBody I defs hrenames hm' hout' s
  have heffect := hstraight.effect_eq (y := y) (fun x => rel_ofArguments hfreeze f.args x) hsteady
    fun x _ => rfl
  exact ⟨vals, out', _, hvals, hcall', hexec.iff_eq, heffect ▸ hexec'.iff_eq⟩

end Func

section Sample

open Code

/-- Reads its parameter before it assigns `x`. -/
def sampleEarly : Func :=
  let o := sampleOrigin
  ⟨o, "f", ["p"], .block o [
    .assign o (nameOf o "z") (opOf o "+" [nameOf o "p", nameOf o "x"]) (ofText? none),
    .assign o (nameOf o "x") (constOf o (.int 1)) (ofText? none),
    .ret o (nameOf o "z")], [], []⟩

/-- The argument `x` of a function that assigns `x` once it has read its parameter. -/
theorem Func.exec_call_values_early : ∃ out,
    sampleEarly.call [] [nameOf none "x"] (some (nameOf none "y")) none [] = .ok out ∧
    ∀ (I : Operators) (s : Valuation), ∃ vals out' s', evalAll I s [nameOf none "x"] = some vals ∧
      sampleEarly.call [] (constants none vals) (some (nameOf none "y")) none [] = .ok out' ∧
      (∀ e s₂, Exec I [] .empty out s e s₂ ↔ e = .fell ∧ s₂ = s') ∧
      ∀ e s₂, Exec I [] .empty out' s e s₂ ↔ e = .fell ∧ s₂ = s' := by
  have hcall : sampleEarly.call [] [nameOf none "x"] (some (nameOf none "y")) none [] =
      .ok [.assign sampleOrigin (nameOf sampleOrigin "z")
          (opOf sampleOrigin "+" [nameOf none "x", nameOf sampleOrigin "x"]) nothing,
        .assign sampleOrigin (nameOf sampleOrigin "x") (constOf sampleOrigin (.int 1)) nothing,
        .assign sampleOrigin (nameOf none "y") (nameOf sampleOrigin "z") nothing] := by
    cbv
  have hargs : ∀ a ∈ [nameOf none "x"], Arith (fun _ => True) a :=
    forall_mem_singleton.2 (.name trivial)
  have hsum {vars : String → Prop} (hp : vars "p") (hx : vars "x") :
      Arith vars (opOf sampleOrigin "+" [nameOf sampleOrigin "p", nameOf sampleOrigin "x"]) :=
    .op (forall_mem_cons.2 ⟨.name hp, forall_mem_singleton.2 (.name hx)⟩)
  have hsettled : Settled (.ofArguments (["p"].map text) [nameOf none "x"]) [] "p" := by
    intro a ha
    have hx : a = nameOf none "x" := by
      simpa [Substitution.ofArguments, Substitution.ofList] using ha.symm
    exact hx ▸ .name not_mem_nil
  have hother (touched : List String) {x : String} (hx : "p" ≠ x) :
      Settled (.ofArguments (["p"].map text) [nameOf none "x"]) touched x := by
    intro a ha
    rw [ofArguments_cons, if_neg hx] at ha
    cases ha
  exact ⟨_, hcall, fun I => Func.exec_call_values I rfl rfl
    (.assign (hsum trivial trivial) (.assign (.const rfl) (.ret (.name trivial)))) hargs
    ⟨hsum hsettled (hother _ (by decide)), .const rfl, .name (hother _ (by decide))⟩ none none "y"
    hcall⟩

/-- Reads its parameter after it has assigned `x`. -/
def sampleLate : Func :=
  let o := sampleOrigin
  ⟨o, "f", ["p"], .block o [
    .assign o (nameOf o "x") (constOf o (.int 1)) (ofText? none),
    .ret o (nameOf o "p")], [], []⟩

/-- The argument `x` of a function that assigns `x` and then reads its parameter: the call stores
the new value of `x`, the call with the value of the argument stores the old one. -/
theorem Func.exec_call_late :
    (∃ b body, sampleLate.body = .block b body ∧ Straight body) ∧ sampleLate.locals = [] ∧
    ∃ out out', sampleLate.call [] [nameOf none "x"] (some (nameOf none "y")) none [] = .ok out ∧
      sampleLate.call [] (constants none [0]) (some (nameOf none "y")) none [] = .ok out' ∧
      ∀ I : Operators, evalAll I (fun _ => 0) [nameOf none "x"] = some [0] ∧
        ∃ s s', Exec I [] .empty out (fun _ => 0) .fell s ∧
          Exec I [] .empty out' (fun _ => 0) .fell s' ∧ s "y" = 1 ∧ s' "y" = 0 := by
  have hcall : sampleLate.call [] [nameOf none "x"] (some (nameOf none "y")) none [] =
      .ok [.assign sampleOrigin (nameOf sampleOrigin "x") (constOf sampleOrigin (.int 1)) nothing,
        .assign sampleOrigin (nameOf none "y") (nameOf none "x") nothing] := by
    cbv
  have hcall' : sampleLate.call [] (constants none [0]) (some (nameOf none "y")) none [] =
      .ok [.assign sampleOrigin (nameOf sampleOrigin "x") (constOf sampleOrigin (.int 1)) nothing,
        .assign sampleOrigin (nameOf none "y") (constOf none (.int 0)) nothing] := by
    cbv
  have hplain : nothing = ofText? none := rfl
  refine ⟨⟨_, _, rfl, .assign (.const rfl) (.ret (.name trivial))⟩, rfl, _, _, hcall, hcall',
    fun I => ⟨rfl, _, _, .assign hplain rfl (.assign hplain rfl .nil),
      .assign hplain rfl (.assign hplain rfl .nil), ?_, ?_⟩⟩
  · simp [Operators.store, Operators.update, Frame.look, Frame.empty]
  · simp [Operators.store, Operators.update]

end Sample

end DataDiagram
