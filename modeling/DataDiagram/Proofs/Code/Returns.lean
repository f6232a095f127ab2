import DataDiagram.Proofs.Code.Calls
import DataDiagram.Proofs.Code.Names
/-!
# Returns as assignments

A return puts its value into the target of the call and leaves the function.  Inlining makes of it
an assignment to the target, after which execution goes on.  Once returns are normal, the two differ
in the statements that stand after a choice with a return in it, and in nothing else.
-/

namespace DataDiagram

open List

/-- What expressions and assignments mean: the values of expressions, the values that count as true,
and what becomes of a state when a value goes to a target.  Values and assignments may fail. -/
structure Interpretation (σ ν : Type) where
  value : Code → σ → Option ν
  truth : ν → Bool
  store : (target aug : Code) → ν → σ → Option σ

/-- Assigns the value of an expression. -/
def Interpretation.assign {σ ν : Type} (I : Interpretation σ ν) (target aug value : Code) (s : σ) :
    Option σ :=
  (I.value value s).bind fun n => I.store target aug n s

namespace Code

variable {σ ν : Type}

mutual

/-- Executes a statement, as part of a call that has a target.  The outcome says whether the
function has been left. -/
def run (I : Interpretation σ ν) (target aug : Code) : Code → σ → Option (Bool × σ)
  | pass _, s => some (false, s)
  | assign _ t v o, s => (I.assign t o v s).map (false, ·)
  | cond _ t a b, s =>
    (I.value t s).bind fun n => if I.truth n then run I target aug a s else run I target aug b s
  | block _ body, s => runAll I target aug body s
  | ret _ v, s => (I.assign target aug v s).map (true, ·)
  | _, _ => none

/-- Executes statements one after the other, until the function is left. -/
def runAll (I : Interpretation σ ν) (target aug : Code) : List Code → σ → Option (Bool × σ)
  | [], s => some (false, s)
  | c :: rest, s =>
    (run I target aug c s).bind fun e => if e.1 then some e else runAll I target aug rest e.2

end

mutual

/-- Code in which each return of a value is an assignment to the target. -/
def storeReturns (target aug : Code) : Code → Code
  | ret r v => assign r target v aug
  | cond r t a b => cond r t (storeReturns target aug a) (storeReturns target aug b)
  | block r body => block r (storeReturnsAll target aug body)
  | c => c

/-- Statements in which each return of a value is an assignment to the target. -/
def storeReturnsAll (target aug : Code) : List Code → List Code
  | [] => []
  | c :: rest => storeReturns target aug c :: storeReturnsAll target aug rest

end

mutual

/-- The statements inside of a choice that still follow the return with which it is left. -/
def pending (I : Interpretation σ ν) (target aug : Code) : Code → σ → List Code
  | cond _ t a b, s =>
    match I.value t s with
    | some n => if I.truth n then pending I target aug a s else pending I target aug b s
    | none => []
  | block _ body, s => pendingAll I target aug body s
  | _, _ => []

/-- The statements that still follow the return with which some statements are left. -/
def pendingAll (I : Interpretation σ ν) (target aug : Code) : List Code → σ → List Code
  | [], _ => []
  | c :: rest, s =>
    match run I target aug c s with
    | some (true, _) => pending I target aug c s ++ rest
    | some (false, s') => pendingAll I target aug rest s'
    | none => []

end

mutual

/-- Whether there is a return in a piece of code. -/
def hasReturn : Code → Bool
  | ret .. => true
  | cond _ _ a b => a.hasReturn || b.hasReturn
  | block _ body => haveReturn body
  | _ => false

/-- Whether there is a return in some pieces of code. -/
def haveReturn : List Code → Bool
  | [] => false
  | c :: rest => c.hasReturn || haveReturn rest

end

mutual

/-- Whether nothing stands after a statement with a return in it. -/
def returnsLast : Code → Bool
  | cond _ _ a b => a.returnsLast && b.returnsLast
  | block _ body => allReturnLast body
  | _ => true

/-- Whether only the last one of some statements has a return in it, and there nothing stands after
it. -/
def allReturnLast : List Code → Bool
  | [] => true
  | c :: rest => c.returnsLast && (rest.isEmpty || !c.hasReturn) && allReturnLast rest

end

/-- A statement that computes, chooses or returns a value. -/
inductive Returning : Code → Prop
  | pass {r} : Returning (.pass r)
  | assign {r t v o} : Returning (.assign r t v o)
  | cond {r t ra a rb b} (ha : ∀ c ∈ a, Returning c) (hb : ∀ c ∈ b, Returning c) :
    Returning (.cond r t (.block ra a) (.block rb b))
  | ret {r v} (hv : v ≠ nothing) : Returning (.ret r v)

variable {I : Interpretation σ ν} {target aug c : Code} {body items : List Code}

theorem Returning.flat (h : ∀ c ∈ body, Returning c) : Flat body := by
  intro c hc
  cases h c hc <;> rfl

/-! ## Execution -/

variable {s s' : σ} {r : Option Origin}

theorem runAll_cons_of_left (h : run I target aug c s = some (true, s')) (rest : List Code) :
    runAll I target aug (c :: rest) s = some (true, s') := by
  rw [runAll, h]
  rfl

theorem runAll_cons_of_fell (h : run I target aug c s = some (false, s')) (rest : List Code) :
    runAll I target aug (c :: rest) s = runAll I target aug rest s' := by
  rw [runAll, h]
  rfl

theorem runAll_cons_of_none (h : run I target aug c s = none) (rest : List Code) :
    runAll I target aug (c :: rest) s = none := by
  rw [runAll, h]
  rfl

theorem runAll_append (first more : List Code) (s : σ) :
    runAll I target aug (first ++ more) s =
      (runAll I target aug first s).bind fun e => if e.1 then some e
      else runAll I target aug more e.2 := by
  induction first generalizing s with
  | nil => rfl
  | cons c first ih =>
    rw [cons_append]
    match h : run I target aug c s with
    | none => rw [runAll_cons_of_none h, runAll_cons_of_none h]; rfl
    | some (true, s') => rw [runAll_cons_of_left h, runAll_cons_of_left h]; rfl
    | some (false, s') => rw [runAll_cons_of_fell h, runAll_cons_of_fell h, ih]

theorem runAll_congr_cons {c' : Code} (h : ∀ s, run I target aug c' s = run I target aug c s)
    {rest rest' : List Code}
    (hrest : ∀ s, runAll I target aug rest' s = runAll I target aug rest s) (s : σ) :
    runAll I target aug (c' :: rest') s = runAll I target aug (c :: rest) s := by
  rw [runAll, runAll, h]
  simp only [hrest]

/-! ## Normal returns -/

/-- A block that ends with a return is left whenever it is executed. -/
theorem left_of_endsWithRet (h : (Code.block r items).endsWithRet = true)
    {e : Bool × σ} (he : runAll I target aug items s = some e) : e.1 = true := by
  induction items generalizing s with
  | nil => exact nomatch h
  | cons c items ih =>
    match hc : run I target aug c s with
    | none =>
      rw [runAll_cons_of_none hc] at he
      exact nomatch he
    | some (true, s') =>
      rw [runAll_cons_of_left hc] at he
      cases he
      rfl
    | some (false, s') =>
      rw [runAll_cons_of_fell hc] at he
      cases items with
      | nil =>
        have hret : c.isRet = true := h
        cases c with
        | ret r v =>
          rw [run, Option.map_eq_some_iff] at hc
          obtain ⟨_, -, hc⟩ := hc
          exact nomatch hc
        | _ => exact nomatch hret
      | cons d items => exact ih h he

/-- Making returns normal does not change what statements do. -/
def RunKept (I : Interpretation σ ν) (target aug : Code) (body : List Code) : Prop :=
  ∀ items, normalItems body = .ok items →
    (∀ c ∈ items, Returning c) ∧ ∀ s, runAll I target aug items s = runAll I target aug body s

theorem RunKept.block (h : RunKept I target aug body)
    (hc : normalReturns (.block r body) = .ok c) :
    ∃ items, c = .block r items ∧ (∀ c ∈ items, Returning c) ∧
      ∀ s, runAll I target aug items s = runAll I target aug body s := by
  rw [normalReturns] at hc
  obtain ⟨items, hitems, h₁⟩ := bind_eq_ok_iff.1 hc
  obtain ⟨_, -, h₂⟩ := bind_eq_ok_iff.1 h₁
  obtain ⟨hreturning, hrun⟩ := h items hitems
  rw [(Returning.flat hreturning).mkBlock] at h₂
  exact ⟨items, (Except.ok.inj h₂).symm, hreturning, hrun⟩

theorem RunKept.cond {r ra rb : Option Origin} {t : Code} {a b rest : List Code}
    (ha : RunKept I target aug a) (hb : RunKept I target aug b)
    (hrest : RunKept I target aug rest) :
    RunKept I target aug (.cond r t (.block ra a) (.block rb b) :: rest) := by
  intro items hitems
  rw [normalItems] at hitems
  obtain ⟨a', ha', h₁⟩ := bind_eq_ok_iff.1 hitems
  obtain ⟨b', hb', h₂⟩ := bind_eq_ok_iff.1 h₁
  obtain ⟨_, -, h₃⟩ := bind_eq_ok_iff.1 h₂
  obtain ⟨as, rfl, hasr, has⟩ := ha.block ha'
  obtain ⟨bs, rfl, hbsr, hbs⟩ := hb.block hb'
  have hrun : ∀ s, run I target aug (.cond r t (.block ra as) (.block rb bs)) s =
      run I target aug (.cond r t (.block ra a) (.block rb b)) s := by
    intro s
    simp only [run, has, hbs]
  split at h₃
  · next hboth =>
      -- Both branches leave the function, so that what follows is never executed.
      cases h₃
      rw [Bool.and_eq_true] at hboth
      refine ⟨forall_mem_singleton.2 (.cond hasr hbsr), fun s => ?_⟩
      match hc : run I target aug (.cond r t (.block ra as) (.block rb bs)) s with
      | none => rw [runAll_cons_of_none hc, runAll_cons_of_none (hrun s ▸ hc)]
      | some (true, s') => rw [runAll_cons_of_left hc, runAll_cons_of_left (hrun s ▸ hc)]
      | some (false, s') =>
        rw [run, Option.bind_eq_some_iff] at hc
        obtain ⟨n, -, hbranch⟩ := hc
        split at hbranch
        · exact nomatch left_of_endsWithRet hboth.1 hbranch
        · exact nomatch left_of_endsWithRet hboth.2 hbranch
  · split at h₃
    · obtain ⟨_, -, h₄⟩ := bind_eq_ok_iff.1 h₃
      exact nomatch h₄
    · obtain ⟨more, hmore, h₄⟩ := bind_eq_ok_iff.1 h₃
      cases h₄
      obtain ⟨hreturning, hmore⟩ := hrest more hmore
      exact ⟨forall_mem_cons.2 ⟨.cond hasr hbsr, hreturning⟩, runAll_congr_cons hrun hmore⟩

/-- What holds of both branches of a choice. -/
theorem runKept_of_branches
    (h : ∀ c ∈ body, Returning c ∧ Statement.Branches (RunKept I target aug) c) :
    RunKept I target aug body := by
  induction body with
  | nil =>
    intro items hitems
    cases hitems
    exact ⟨forall_mem_nil _, fun _ => rfl⟩
  | cons c rest ih =>
    rw [forall_mem_cons] at h
    obtain ⟨⟨hc, hbranches⟩, hrest⟩ := h
    have hnext : ∀ items, (do let more ← normalItems rest; return c :: more) = Except.ok items →
        (∀ d ∈ items, Returning d) ∧
          ∀ s, runAll I target aug items s = runAll I target aug (c :: rest) s := by
      intro items h'
      obtain ⟨more, hmore, hpure⟩ := bind_eq_ok_iff.1 h'
      cases hpure
      obtain ⟨hreturning, hrun⟩ := ih hrest more hmore
      exact ⟨forall_mem_cons.2 ⟨hc, hreturning⟩, runAll_congr_cons (fun _ => rfl) hrun⟩
    cases hc with
    | pass | assign =>
      intro items hitems
      rw [normalItems] at hitems
      · exact hnext items hitems
      all_goals simp
    | cond => exact RunKept.cond hbranches.1 hbranches.2 (ih hrest)
    | @ret r v hv =>
      intro items hitems
      cases hitems
      refine ⟨forall_mem_singleton.2 (.ret hv), fun s => ?_⟩
      match hc : run I target aug (.ret r v) s with
      | none => rw [runAll_cons_of_none hc, runAll_cons_of_none hc]
      | some (true, s') => rw [runAll_cons_of_left hc, runAll_cons_of_left hc]
      | some (false, s') =>
        rw [run, Option.map_eq_some_iff] at hc
        obtain ⟨_, -, hc⟩ := hc
        exact nomatch hc

theorem Returning.branches (h : Returning c) : Statement.Branches (RunKept I target aug) c := by
  induction h with
  | pass | assign | ret => trivial
  | cond ha hb iha ihb =>
    exact ⟨runKept_of_branches fun c hc => ⟨ha c hc, iha c hc⟩,
      runKept_of_branches fun c hc => ⟨hb c hc, ihb c hc⟩⟩

/-- What a block with normal returns is made of, and that it does the same as the block. -/
theorem normalReturns_run (h : ∀ c ∈ body, Returning c)
    (hc : normalReturns (.block r body) = .ok c) (I : Interpretation σ ν) (target aug : Code) :
    ∃ items, c = .block r items ∧ (∀ c ∈ items, Returning c) ∧
      ∀ s, runAll I target aug items s = runAll I target aug body s :=
  (runKept_of_branches fun c hc => ⟨h c hc, (h c hc).branches⟩).block hc

/-! ## Returns that are stored -/

theorem storeReturnsAll_append (first more : List Code) :
    storeReturnsAll target aug (first ++ more) =
      storeReturnsAll target aug first ++ storeReturnsAll target aug more := by
  induction first with
  | nil => rfl
  | cons c first ih => rw [cons_append, storeReturnsAll, storeReturnsAll, ih, cons_append]

mutual

/-- With its returns stored, a statement goes on where it would leave the function. -/
theorem run_storeReturns (I : Interpretation σ ν) (target aug : Code) : ∀ (c : Code) (s : σ),
    run I target aug (storeReturns target aug c) s = (run I target aug c s).bind fun e =>
      if e.1 then runAll I target aug (storeReturnsAll target aug (pending I target aug c s)) e.2
      else some e
  | ret r v, s => by
    rw [storeReturns, run, run]
    cases I.assign target aug v s <;> rfl
  | pass r, s => rfl
  | assign r t v o, s => by
    have hsame : storeReturns target aug (assign r t v o) = assign r t v o := rfl
    rw [hsame, run]
    cases I.assign t o v s <;> rfl
  | cond r t a b, s => by
    rw [storeReturns, run, run, pending]
    cases I.value t s with
    | none => rfl
    | some n =>
      simp only [Option.bind_some]
      split
      · exact run_storeReturns I target aug a s
      · exact run_storeReturns I target aug b s
  | block r body, s => by
    rw [storeReturns, run, run, pending]
    exact runAll_storeReturnsAll I target aug body s
  | datum _, _ | tuple _, _ | const .., _ | op .., _ | name .., _ | attr .., _ | item .., _
  | call .., _ | bareCall .., _ | var .., _ | cls .., _ | func .., _ | bare .., _ => rfl

theorem runAll_storeReturnsAll (I : Interpretation σ ν) (target aug : Code) :
    ∀ (cs : List Code) (s : σ), runAll I target aug (storeReturnsAll target aug cs) s =
      (runAll I target aug cs s).bind fun e =>
        if e.1 then runAll I target aug (storeReturnsAll target aug (pendingAll I target aug cs s))
        e.2
        else some e
  | [], s => rfl
  | c :: rest, s => by
    rw [storeReturnsAll, runAll, run_storeReturns I target aug c s, pendingAll]
    match hc : run I target aug c s with
    | none =>
      rw [runAll_cons_of_none hc]
      rfl
    | some (true, s') =>
      rw [runAll_cons_of_left hc]
      simp only [storeReturnsAll_append, runAll_append, Option.bind_some, if_true]
    | some (false, s') =>
      rw [runAll_cons_of_fell hc]
      exact runAll_storeReturnsAll I target aug rest s'

end

mutual

theorem fell_of_hasReturn : ∀ {c : Code} {s : σ} {e : Bool × σ}, c.hasReturn = false →
    run I target aug c s = some e → e.1 = false
  | pass r, s, e, _, he => by
    cases he
    rfl
  | assign r t v o, s, e, _, he => by
    rw [run, Option.map_eq_some_iff] at he
    obtain ⟨_, -, rfl⟩ := he
    rfl
  | cond r t a b, s, e, h, he => by
    rw [hasReturn, Bool.or_eq_false_iff] at h
    rw [run, Option.bind_eq_some_iff] at he
    obtain ⟨n, -, hbranch⟩ := he
    split at hbranch
    · exact fell_of_hasReturn h.1 hbranch
    · exact fell_of_hasReturn h.2 hbranch
  | block r body, s, e, h, he => fell_of_haveReturn h he

theorem fell_of_haveReturn : ∀ {cs : List Code} {s : σ} {e : Bool × σ}, haveReturn cs = false →
    runAll I target aug cs s = some e → e.1 = false
  | [], s, e, _, he => by
    cases he
    rfl
  | c :: rest, s, e, h, he => by
    rw [haveReturn, Bool.or_eq_false_iff] at h
    rw [runAll, Option.bind_eq_some_iff] at he
    obtain ⟨e₁, he₁, he⟩ := he
    rw [fell_of_hasReturn h.1 he₁] at he
    exact fell_of_haveReturn h.2 he

end

mutual

theorem pending_eq_nil : ∀ {c : Code} (s : σ), c.returnsLast = true → pending I target aug c s = []
  | cond r t a b, s, h => by
    rw [returnsLast, Bool.and_eq_true] at h
    rw [pending]
    split
    · split
      · exact pending_eq_nil s h.1
      · exact pending_eq_nil s h.2
    · rfl
  | block r body, s, h => pendingAll_eq_nil s h
  | datum _, _, _ | tuple _, _, _ | const .., _, _ | op .., _, _ | name .., _, _ | attr .., _, _
  | item .., _, _ | call .., _, _ | pass _, _, _ | assign .., _, _ | ret .., _, _
  | bareCall .., _, _
  | var .., _, _ | cls .., _, _ | func .., _, _ | bare .., _, _ => rfl

theorem pendingAll_eq_nil : ∀ {cs : List Code} (s : σ), allReturnLast cs = true →
    pendingAll I target aug cs s = []
  | [], _, _ => rfl
  | c :: rest, s, h => by
    rw [allReturnLast, Bool.and_eq_true, Bool.and_eq_true, Bool.or_eq_true, Bool.not_eq_true',
      List.isEmpty_iff] at h
    obtain ⟨⟨hc, hlast⟩, hrest⟩ := h
    rw [pendingAll]
    match he : run I target aug c s with
    | none => rfl
    | some (false, s') => exact pendingAll_eq_nil s' hrest
    | some (true, s') =>
      rcases hlast with rfl | hlast
      · rw [pending_eq_nil s hc]
        rfl
      · exact nomatch fell_of_hasReturn hlast he

end

/-! ## Inlining -/

theorem flat_storeReturnsAll (h : ∀ c ∈ body, Returning c) :
    Flat (storeReturnsAll target aug body) := by
  induction body with
  | nil => exact flat_nil
  | cons c body ih =>
    rw [forall_mem_cons] at h
    refine .cons ?_ (ih h.2)
    cases h.1 <;> rfl

variable {enter : Enter} {out : List Code}

theorem inlineAll_of_forall
    (h : ∀ c ∈ body, c.entered = [] → ∀ out, inlineWith enter target aug c = .ok out →
      out = [storeReturns target aug c])
    (hcalls : enteredAll body = []) (hout : inlineAll enter target aug body = .ok out) :
    out = storeReturnsAll target aug body := by
  induction body generalizing out with
  | nil => exact (Except.ok.inj hout).symm
  | cons c body ih =>
    rw [forall_mem_cons] at h
    rw [enteredAll, append_eq_nil_iff] at hcalls
    obtain ⟨first, more, hfirst, hmore, rfl⟩ := inlineAll_cons_eq_ok hout
    rw [h.1 hcalls.1 first hfirst, ih h.2 hcalls.2 hmore]
    rfl

theorem Returning.inlineWith_eq (htarget : target ≠ nothing) (h : Returning c)
    (hcalls : c.entered = [])
    (hout : inlineWith enter target aug c = .ok out) : out = [storeReturns target aug c] := by
  induction h generalizing out with
  | pass => exact (Except.ok.inj hout).symm
  | @assign r t v o =>
    cases v with
    | call => exact nomatch hcalls
    | _ => exact (Except.ok.inj hout).symm
  | cond ha hb iha ihb =>
    rw [entered, append_eq_nil_iff] at hcalls
    obtain ⟨outa, outb, houta, houtb, rfl⟩ := inlineWith_cond_eq_ok hout
    rw [inlineAll_of_forall (fun c hc h out => iha c hc h) hcalls.1 houta,
      inlineAll_of_forall (fun c hc h out => ihb c hc h) hcalls.2 houtb,
      (flat_storeReturnsAll ha).mkBlock, (flat_storeReturnsAll hb).mkBlock]
    rfl
  | ret hv =>
    rw [inlineWith, inlineRet] at hout
    · obtain ⟨_, -, hpure⟩ := bind_eq_ok_iff.1 hout
      exact (Except.ok.inj hpure).symm
    all_goals simp_all

/-- The statements that inlining makes of a block without calls are those of the block with their
returns stored. -/
theorem inlineAll_eq_storeReturnsAll (htarget : target ≠ nothing) (h : ∀ c ∈ body, Returning c)
    (hcalls : enteredAll body = []) (hout : inlineAll enter target aug body = .ok out) :
    out = storeReturnsAll target aug body :=
  inlineAll_of_forall (fun c hc hcalls _ => (h c hc).inlineWith_eq htarget hcalls) hcalls hout

/-! ## Main statement -/

/-- The state in which some statements end. -/
def after (I : Interpretation σ ν) (target aug : Code) (cs : List Code) (s : σ) : Option σ :=
  (runAll I target aug cs s).map Prod.snd

/-- With normal returns, and these turned into assignments, a block ends in the state of the block
itself if and only if the statements that are pending when the function is left change nothing.
None are pending if nothing stands after a statement with a return in it. -/
theorem after_normalReturns (I : Interpretation σ ν) (target aug : Code)
    (hbody : ∀ c ∈ body, Returning c) {r : Option Origin}
    (hc : normalReturns (.block r body) = .ok c) :
    ∃ items, c = .block r items ∧
      (∀ s, after I target aug (storeReturnsAll target aug items) s = after I target aug body s ↔
        ∀ s', runAll I target aug body s = some (true, s') →
          after I target aug (storeReturnsAll target aug (pendingAll I target aug items s)) s' =
            some s') ∧
      (allReturnLast items = true → ∀ s,
        after I target aug (storeReturnsAll target aug items) s = after I target aug body s) ∧
      ∀ enter out, target ≠ nothing → enteredAll items = [] →
        inlineAll enter target aug items = .ok out → out = storeReturnsAll target aug items := by
  obtain ⟨items, rfl, hitems, hrun⟩ := normalReturns_run hbody hc I target aug
  have hexact : ∀ s, after I target aug (storeReturnsAll target aug items) s =
      after I target aug body s ↔ ∀ s', runAll I target aug body s = some (true, s') →
        after I target aug (storeReturnsAll target aug (pendingAll I target aug items s)) s' =
          some s' := by
    intro s
    rw [after, after, runAll_storeReturnsAll, hrun]
    match runAll I target aug body s with
    | none => simp
    | some (false, s') => simp
    | some (true, s') => simp [after]
  refine ⟨items, rfl, hexact, fun hlast s => (hexact s).2 fun s' _ => ?_, ?_⟩
  · rw [pendingAll_eq_nil s hlast]
    rfl
  · intro enter out htarget hcalls hout
    exact inlineAll_eq_storeReturnsAll htarget hitems hcalls hout

end Code

/-- The interpretation by integers and variables. -/
def Operators.interpretation (I : Operators) : Interpretation Valuation Int where
  value c s := c.eval I s
  truth n := n != 0
  store target aug n s :=
    match target with
    | .nameOf _ x => some (I.store (some x) (Code.augOf aug) (some n) s)
    | _ => none

namespace Code

section Sample

/-- The name of a variable. -/
def sampleName (x : String) : Code := nameOf sampleOrigin x

def sampleReturn (n : Int) : Code := .ret sampleOrigin (constOf sampleOrigin (.int n))

def sampleSet (x : String) (n : Int) : Code :=
  .assign sampleOrigin (sampleName x) (constOf sampleOrigin (.int n)) nothing

def sampleChoice (x : String) (a b : List Code) : Code :=
  .cond sampleOrigin (sampleName x) (.block sampleOrigin a) (.block sampleOrigin b)

theorem returning_sampleChoice {x : String} {a b : List Code} (ha : ∀ c ∈ a, Returning c)
    (hb : ∀ c ∈ b, Returning c) : Returning (sampleChoice x a b) := .cond ha hb

theorem returning_sampleReturn (n : Int) : Returning (sampleReturn n) := .ret Code.noConfusion

theorem returning_sampleSet (x : String) (n : Int) : Returning (sampleSet x n) := .assign

/-- Both branches return, and what follows is dropped. -/
def droppedBody : List Code :=
  [sampleSet "x" 4, sampleChoice "a" [sampleReturn 1, sampleSet "x" 9] [sampleReturn 2],
    sampleSet "x" 7]

theorem after_normalReturns_dropped : (∀ c ∈ droppedBody, Returning c) ∧ ∃ items,
    normalReturns (.block sampleOrigin droppedBody) = .ok (.block sampleOrigin items) ∧
    allReturnLast items = true ∧ ∀ I s,
      after (Operators.interpretation I) (sampleName "y") nothing
          (storeReturnsAll (sampleName "y") nothing items) s =
        after (Operators.interpretation I) (sampleName "y") nothing droppedBody s := by
  have hbody : ∀ c ∈ droppedBody, Returning c := by
    simp [droppedBody, returning_sampleChoice, returning_sampleReturn, returning_sampleSet]
  have hc : normalReturns (.block sampleOrigin droppedBody) = .ok (.block sampleOrigin
      [sampleSet "x" 4, sampleChoice "a" [sampleReturn 1] [sampleReturn 2]]) := rfl
  refine ⟨hbody, _, hc, rfl, fun I s => ?_⟩
  obtain ⟨items, heq, -, hlast, -⟩ :=
    after_normalReturns I.interpretation (sampleName "y") nothing hbody hc
  cases heq
  exact hlast rfl s

/-- Both branches of an inner choice return, and statements follow the outer one. -/
def nestedBody : List Code :=
  [sampleChoice "a" [sampleChoice "b" [sampleReturn 1] [sampleReturn 2]] [], sampleSet "x" 5,
    sampleReturn 3]

/-- What an inner choice returns is overwritten by what follows the outer one. -/
theorem after_normalReturns_nested : (∀ c ∈ nestedBody, Returning c) ∧
    "y" ∉ mentionedAll nestedBody ∧ ∃ items,
    normalReturns (.block sampleOrigin nestedBody) = .ok (.block sampleOrigin items) ∧ ∃ I s,
      after (Operators.interpretation I) (sampleName "y") nothing
          (storeReturnsAll (sampleName "y") nothing items) s ≠
        after (Operators.interpretation I) (sampleName "y") nothing nestedBody s := by
  refine ⟨?_, by decide, _, rfl, fun _ _ => 0, fun _ => 1, fun h => ?_⟩
  · simp [nestedBody, returning_sampleChoice, returning_sampleReturn, returning_sampleSet]
  · exact absurd (congrArg (Option.map (· "y")) h) (by decide)

end Sample

end Code

end DataDiagram
