import DataDiagram.Proofs.Code.Calls
import DataDiagram.Proofs.Code.Complete
import DataDiagram.Proofs.Reading.Progress
import Mathlib.Data.List.Perm.Subperm
/-!
# Calls that have been followed

Following the calls of a function and inlining it are two walks over the same calls, the first over
the functions as they are declared and the second over bodies in which returns are normal and names
are replaced.  What the first one accepts, the second one enters without meeting a function that is
being inlined or one that is not defined.
-/

namespace DataDiagram

open List

namespace Code

variable {follow : Follow} {stack : List String} {names : List Datum}

/-- Every call of a list has been followed from the stack. -/
def Tracked (follow : Follow) (stack : List String) (ps : List (Code × Code)) : Prop :=
  ∀ p ∈ ps, ∃ c own, follow stack c p.1 = .ok own

theorem Tracked.append {ps qs : List (Code × Code)} (hp : Tracked follow stack ps)
    (hq : Tracked follow stack qs) : Tracked follow stack (ps ++ qs) :=
  forall_mem_append.2 ⟨hp, hq⟩

mutual

/-- The calls that inlining enters have all been followed. -/
theorem tracked_entered :
    ∀ (c : Code) {names : List Datum}, reached follow stack c = .ok names →
      Tracked follow stack c.entered
  | call r f args, names, h => forall_mem_singleton.2 ⟨_, names, h⟩
  | assign r t v o, names, h => by
    rw [reached] at h
    obtain ⟨_, -, h₁⟩ := bind_eq_ok_iff.1 h
    obtain ⟨_, hv, -⟩ := bind_eq_ok_iff.1 h₁
    exact tracked_entered v hv
  | bareCall r c, names, h => tracked_entered c h
  | cond r t a b, names, h => by
    rw [reached] at h
    obtain ⟨_, -, h₁⟩ := bind_eq_ok_iff.1 h
    obtain ⟨_, ha, h₂⟩ := bind_eq_ok_iff.1 h₁
    obtain ⟨_, hb, -⟩ := bind_eq_ok_iff.1 h₂
    exact (tracked_entered a ha).append (tracked_entered b hb)
  | block r body, names, h => tracked_enteredAll body h
  | tuple items, names, h => tracked_enteredAll items h
  | datum _, _, _ | const .., _, _ | op .., _, _ | name .., _, _ | attr .., _, _ | item .., _, _
  | pass _, _, _ | ret .., _, _ | var .., _, _ | cls .., _, _ | func .., _, _ | bare .., _, _ =>
    forall_mem_nil _

theorem tracked_enteredAll :
    ∀ (cs : List Code) {names : List Datum}, reachedAll follow stack cs = .ok names →
      Tracked follow stack (enteredAll cs)
  | [], _, _ => forall_mem_nil _
  | c :: rest, names, h => by
    rw [reachedAll] at h
    obtain ⟨_, hc, h₁⟩ := bind_eq_ok_iff.1 h
    obtain ⟨_, hrest, -⟩ := bind_eq_ok_iff.1 h₁
    exact (tracked_entered c hc).append (tracked_enteredAll rest hrest)

end

variable {c : Code} {cs : List Code}

theorem tracked_of_reachedBody (h : reachedBody follow stack c = .ok names) :
    Tracked follow stack c.entered := by
  unfold reachedBody at h
  split at h
  · exact tracked_enteredAll _ h
  · exact tracked_enteredAll _ h
  · exact forall_mem_nil _
  · exact nomatch h

/-! ## Parts of a call -/

theorem callsAll_eq_nil_iff : callsAll cs = [] ↔ ∀ c ∈ cs, c.calls = [] := by
  induction cs with
  | nil => simp [callsAll]
  | cons c cs ih => rw [callsAll, append_eq_nil_iff, ih, forall_mem_cons]

theorem calls_of_items (hcs : c.items? = some cs) :
    callsAll cs = c.calls ∧ enteredAll cs = c.entered := by
  unfold items? at hcs
  split at hcs
  · cases hcs
    exact ⟨rfl, rfl⟩
  · cases hcs
    exact ⟨rfl, rfl⟩
  · next s =>
      cases hcs
      induction s.toList with
      | nil => exact ⟨rfl, rfl⟩
      | cons x xs ih => exact ih
  · exact nomatch hcs

theorem guarded_scopeEntries (f : Func) (locals : List Var) :
    Guarded (fun _ => True) (scopeEntries (text f.name) (locals.map Var.code)) := by
  induction locals with
  | nil => exact trivial
  | cons v locals ih =>
    rw [map_cons, scopeEntries]
    refine (guarded_requireRef _ _).bind fun _ _ _ => ?_
    exact ih.bind fun _ _ _ => trivial

end Code

theorem Substitution.Renames.quiet {m : Substitution} {ρ : String → String} (h : m.Renames ρ) :
    m.Quiet := by
  intro x a ha
  rcases h x with ⟨hnone, -⟩ | ⟨r, hsome⟩
  · exact nomatch hnone.symm.trans ha
  · cases hsome.symm.trans ha
    rfl

/-! ## Calls -/

namespace Module

open Code

variable {m : Module} {f : Func} {route : List String}

theorem subset_names (hf : f ∈ m.functions)
    (hroute : route ⊆ Table.names m.functions) : route ++ [f.name] ⊆ Table.names m.functions :=
  append_subset.2 ⟨hroute, forall_mem_singleton.2 (mem_map_of_mem hf)⟩

theorem any_same_eq_false {f : String} (h : (route ++ [f]).Nodup) :
    (route.map Code.text).any (Code.text f).same = false := by
  have hf : f ∉ route := fun hmem => disjoint_of_nodup_append h hmem mem_cons_self
  exact Bool.eq_false_iff.2 (mt any_same_iff.1 hf)

theorem guarded_callAt (hplain : ∀ g ∈ m.functions, g.body.PlainCalls) {depth below : Nat}
    (hf : f ∈ m.functions) (hroute : (route ++ [f.name]).Nodup)
    (hnames : route ⊆ Table.names m.functions) (hdepth : m.functions.length ≤ depth + route.length)
    (htracked : Tracked (m.followAt below) (route ++ [f.name]) f.body.entered) {args : Code}
    (hargs : args.calls = []) (target aug : Code) :
    Guarded (fun _ => True)
      (callAt (m.functions.map Func.code) tooDeep depth f.code args target aug
        (route.map Code.text)) := by
  induction depth generalizing f below route args target aug with
  | zero =>
    -- The functions on the way are distinct, so that the depth is not used up.
    have hlen := (hroute.subperm (subset_names hf hnames)).length_le
    rw [length_append, length_singleton, Table.names, length_map] at hlen
    omega
  | succ depth ih =>
    rw [Func.code, callAt, callOnce]
    refine (guarded_checkArity _ _ _).bind fun _ _ _ => ?_
    rw [any_same_eq_false hroute]
    refine (guarded_items _).bind fun params hparams _ => ?_
    refine (guarded_items args).bind fun arguments _ harguments => ?_
    refine (guarded_items _).bind fun locals hlocals _ => ?_
    cases hparams
    cases hlocals
    refine (guarded_scopeEntries f f.locals).bind fun scope hscope _ => ?_
    refine (guarded_normalReturns f.body).bind fun body _ hbody => ?_
    refine (guarded_items body).bind fun stmts _ hstmts => ?_
    have hquiet := callsAll_eq_nil_iff.1 ((calls_of_items harguments).1.trans hargs)
    refine guarded_inlineBody (Func.renames_scopeEntries hscope).quiet
      (fun x a ha => hquiet a (mem_of_ofArguments ha)) ?_
    rw [(calls_of_items hstmts).2]
    intro p hp
    have hentered := hbody hp
    obtain ⟨c, own, hfollow⟩ := htracked p hentered
    obtain ⟨below', callee, g, _, _, -, hcallee, hnew, hg, hreached, -⟩ := followAt_eq_ok hfollow
    obtain ⟨hmem, hname⟩ := Table.find?_eq_some hg
    obtain rfl : g.name = callee := hname
    refine ⟨hplain f hf p (entered_subset_calls _ hentered), g.name, hcallee, ?_⟩
    intro args target aug hargs
    have hfind : m.functions.find? (fun h => h.name == g.name) = some g := hg
    have hnodup : (route ++ [f.name] ++ [g.name]).Nodup :=
      hroute.append (nodup_singleton _) (disjoint_singleton.2 hnew)
    have hdepth' : m.functions.length ≤ depth + (route ++ [f.name]).length := by
      rw [length_append, length_singleton]
      omega
    have hinner := ih hmem hnodup (subset_names hf hnames) hdepth' (tracked_entered _ hreached)
      hargs target aug
    rw [map_append] at hinner
    rw [entering, find?_map_code, hfind]
    exact hinner

end Module

/-- A function whose calls can be followed is inlined without meeting a function that is being
inlined or one that is not defined, if no call of the module has calls among its arguments. -/
theorem Func.call_followed {m : Module} (hplain : ∀ g ∈ m.functions, g.body.PlainCalls) {f : Func}
    (hf : f ∈ m.functions) {names : List String} (hreach : m.reachable f = .ok names)
    {args : List Code} (hargs : ∀ a ∈ args, a.calls = []) (target : Option Code)
    (aug : Option String) :
    (∀ l, f.call m.functions args target aug [] = .error (.located l) →
      l.message ≠ "unsupported recursive function") ∧
    ∀ name, f.call m.functions args target aug [] ≠ .error (.unknownFunction name) := by
  obtain ⟨calls, hcalls, -⟩ := bind_eq_ok_iff.1 hreach
  have hquiet : (Code.tuple args).calls = [] := Code.callsAll_eq_nil_iff.2 hargs
  have hdepth : m.functions.length ≤ Code.callDepth (m.functions.map Func.code) + 0 := by
    rw [Code.callDepth, length_map]
    omega
  have hguarded : Guarded (fun _ => True) (f.call m.functions args target aug []) :=
    Module.guarded_callAt hplain hf (nodup_singleton f.name) (nil_subset _) hdepth
      (Code.tracked_of_reachedBody hcalls) hquiet (.ofOption target) (.ofText? aug)
  refine ⟨fun l hl => ?_, fun name hname => ?_⟩
  · rw [hl] at hguarded
    exact hguarded
  · rw [hname] at hguarded
    exact hguarded trivial

section Sample

open Code

/-- An origin on the only line of a file. -/
def samplePlace : Option Origin := some ⟨"f.py", ["g(1)"], some ⟨1, 0⟩⟩

/-- A function that returns its parameter. -/
def sampleLast : Func :=
  ⟨samplePlace, "h", ["n"], .block samplePlace [.ret samplePlace (nameOf samplePlace "n")], [], []⟩

/-- A function with a call as a statement. -/
def sampleCaller (name : String) (args : List String) (callee : String) (arg : Code) : Func :=
  ⟨samplePlace, name, args,
    .block samplePlace [.bareCall samplePlace (callOf samplePlace callee [arg])], [], []⟩

def sampleMiddle : Func := sampleCaller "g" ["n"] "h" (nameOf samplePlace "n")

def sampleFirst : Func := sampleCaller "f" [] "g" (constOf samplePlace (.int 1))

/-- A chain of calls that ends in a function with a result, for which there is no use. -/
def sampleChain : Module := ⟨[], [], [sampleFirst, sampleMiddle, sampleLast]⟩

/-- Inlining a chain of calls fails at its end, and not for the way that led there. -/
theorem Func.call_followed_chain :
    (∀ g ∈ sampleChain.functions, g.body.PlainCalls) ∧
    sampleChain.reachable sampleFirst = .ok ["f", "g", "h"] ∧
    sampleFirst.call sampleChain.functions [] none none [] =
      .error (.located ⟨"cannot discard return value", "f.py", 1, 0, some "g(1)"⟩) ∧
    (∀ l, sampleFirst.call sampleChain.functions [] none none [] = .error (.located l) →
      l.message ≠ "unsupported recursive function") ∧
    ∀ name, sampleFirst.call sampleChain.functions [] none none [] ≠
      .error (.unknownFunction name) := by
  have hplain : ∀ g ∈ sampleChain.functions, g.body.PlainCalls :=
    forall_mem_cons.2 ⟨forall_mem_singleton.2 rfl, forall_mem_cons.2
      ⟨forall_mem_singleton.2 rfl, forall_mem_singleton.2 (forall_mem_nil _)⟩⟩
  have hmem : sampleFirst ∈ sampleChain.functions := mem_cons_self
  have hreach : sampleChain.reachable sampleFirst = .ok ["f", "g", "h"] := by
    cbv
  exact ⟨hplain, hreach, by cbv,
    Func.call_followed hplain hmem hreach (forall_mem_nil _) none none⟩

end Sample

end DataDiagram
