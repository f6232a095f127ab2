import DataDiagram.Module.Basic
import DataDiagram.Proofs.Code.Inline
import Mathlib.Data.Finset.Card
import Mathlib.Logic.Relation
/-!
# How deep calls nest

A function that is being inlined is on the stack and cannot be entered again.  So calls nest no
deeper than there are functions, and inlining ends whatever the functions call.  If it does not
fail, no way along the calls of the functions leads back to where it came from.
-/

namespace DataDiagram

open List

namespace Code

/-! ## The depth of calls -/

theorem callAt_add (defs : List Code) (deeper : Caller) (m n : Nat) :
    callAt defs deeper (m + n) = callAt defs (callAt defs deeper n) m := by
  induction m with
  | zero => rw [Nat.zero_add, callAt]
  | succ m ih => rw [Nat.succ_add, callAt, ih, callAt]

/-- The names that are not on the stack. -/
def unused (defs : List Func) (stack : List String) : Finset String :=
  (defs.map Func.name).toFinset \ stack.toFinset

variable {defs : List Func} {f : Func} {stack : List String} {c c' : Code} {stmts : List Code}

theorem card_unused_lt (hf : f ∈ defs)
    (hnew : f.name ∉ stack) :
    (unused defs (stack ++ [f.name])).card < (unused defs stack).card := by
  refine Finset.card_lt_card (Finset.ssubset_iff_of_subset ?_ |>.2 ⟨f.name, ?_, ?_⟩)
  · refine Finset.sdiff_subset_sdiff (Finset.Subset.refl _) fun x hx => ?_
    rw [mem_toFinset] at hx ⊢
    exact mem_append_left _ hx
  · simpa [unused, hnew] using ⟨f, hf, rfl⟩
  · simp [unused]

theorem callOnce_congr {defs : List Code} {inner inner' : Caller} {args target aug : Code}
    {stack : List Code} (h : stack.any (text f.name).same = false →
      entering defs inner (stack ++ [text f.name]) = entering defs inner'
      (stack ++ [text f.name])) :
    callOnce defs inner f.code args target aug stack = callOnce defs inner' f.code args target
    aug stack := by
  have hrefused (e : CodeError) (k : Unit → Except CodeError (List Code)) :
      (throw e >>= k) = throw e := rfl
  rw [Func.code, callOnce, callOnce]
  cases hstack : stack.any (text f.name).same with
  | true => simp only [if_true, hrefused]
  | false => rw [h hstack]

/-- With more depth than there are names to enter, nothing lies deeper. -/
theorem callAt_eq_of_card_lt (deeper deeper' : Caller) {depth : Nat}
    (hf : f ∈ defs) (args target aug : Code) (h : (unused defs stack).card < depth) :
    callAt (defs.map Func.code) deeper depth f.code args target aug (stack.map text) =
      callAt (defs.map Func.code) deeper' depth f.code args target aug (stack.map text) := by
  induction depth generalizing f args target aug stack with
  | zero => omega
  | succ depth ih =>
    refine callOnce_congr fun hstack => ?_
    have hnew : f.name ∉ stack := fun hmem => by
      rw [any_same_iff.2 hmem] at hstack
      exact nomatch hstack
    have hless : (unused defs (stack ++ [f.name])).card < depth :=
      Nat.lt_of_lt_of_le (card_unused_lt hf hnew) (by omega)
    funext callee args target aug
    rw [entering, entering]
    cases hfound : find? (defs.map Func.code) callee with
    | none => rfl
    | some c =>
      obtain ⟨g, hg, rfl⟩ := mem_map.1 (mem_of_find?_eq_some hfound)
      have hinner := ih hg args target aug hless
      rw [map_append] at hinner
      exact hinner

/-! ## The functions that are called -/

/-- The name of the function, if the code is a call. -/
def callee : Code → List String
  | call _ (text f) _ => [f]
  | _ => []

mutual

/-- The functions that are called by a statement, or for the value of an assignment. -/
def invoked : Code → List String
  | assign _ _ v _ | bareCall _ v => v.callee
  | cond _ _ a b => a.invoked ++ b.invoked
  | block _ body => invokedAll body
  | tuple items => invokedAll items
  | _ => []

def invokedAll : List Code → List String
  | [] => []
  | c :: rest => c.invoked ++ invokedAll rest

end

attribute [local simp] invoked invokedAll callee

theorem append_subset_append {as bs cs ds : List String} (h : as ⊆ bs) (h' : cs ⊆ ds) :
    as ++ cs ⊆ bs ++ ds :=
  append_subset.2
    ⟨subset_append_of_subset_left _ h, subset_append_of_subset_right _ h'⟩

theorem invokedAll_append (cs ds : List Code) :
    invokedAll (cs ++ ds) = invokedAll cs ++ invokedAll ds := by
  induction cs with
  | nil => rfl
  | cons c cs ih => simp [ih]

mutual

theorem invokedAll_flatten : ∀ c : Code, invokedAll c.flatten = c.invoked
  | block _ body => invokedAll_flattenAll body
  | tuple items => invokedAll_flattenAll items
  | datum _ | const .. | op .. | name .. | attr .. | item .. | call .. | pass _ | assign ..
  | cond ..
  | ret .. | bareCall .. | var .. | cls .. | func .. | bare .. => by simp [flatten]

theorem invokedAll_flattenAll : ∀ cs : List Code, invokedAll (flattenAll cs) = invokedAll cs
  | [] => rfl
  | c :: rest => by
    rw [flattenAll, invokedAll_append, invokedAll_flatten c, invokedAll_flattenAll rest, invokedAll]

end

variable {m : Substitution}

theorem callee_subst (h : c.subst m = .ok c') : c.callee ⊆ c'.callee := by
  cases c with
  | call r f args =>
    rw [subst] at h
    obtain ⟨f', hf, h⟩ := bind_eq_ok_iff.1 h
    obtain ⟨args', -, h⟩ := bind_eq_ok_iff.1 h
    obtain ⟨_, -, h⟩ := bind_eq_ok_iff.1 h
    cases h
    cases f with
    | datum d =>
      cases hf
      cases d <;> simp
    | _ => simp
  | _ => simp

mutual

theorem invoked_subst : ∀ (c : Code) {c' : Code}, c.subst m = .ok c' → c.invoked ⊆ c'.invoked
  | assign r t v o, c', h => by
    rw [subst] at h
    obtain ⟨t', -, h⟩ := bind_eq_ok_iff.1 h
    obtain ⟨v', hv, h⟩ := bind_eq_ok_iff.1 h
    obtain ⟨o', -, h⟩ := bind_eq_ok_iff.1 h
    obtain ⟨_, -, h⟩ := bind_eq_ok_iff.1 h
    cases h
    exact callee_subst hv
  | bareCall r v, c', h => by
    rw [subst] at h
    obtain ⟨v', hv, h⟩ := bind_eq_ok_iff.1 h
    obtain ⟨_, -, h⟩ := bind_eq_ok_iff.1 h
    cases h
    exact callee_subst hv
  | cond r t a b, c', h => by
    rw [subst] at h
    obtain ⟨t', -, h⟩ := bind_eq_ok_iff.1 h
    obtain ⟨a', ha, h⟩ := bind_eq_ok_iff.1 h
    obtain ⟨b', hb, h⟩ := bind_eq_ok_iff.1 h
    obtain ⟨_, -, h⟩ := bind_eq_ok_iff.1 h
    cases h
    exact append_subset_append (invoked_subst a ha) (invoked_subst b hb)
  | block r body, c', h => by
    rw [subst] at h
    obtain ⟨body', hbody, h⟩ := bind_eq_ok_iff.1 h
    obtain ⟨_, -, h⟩ := bind_eq_ok_iff.1 h
    cases h
    rw [mkBlock, invoked, invoked, invokedAll_flattenAll]
    exact invokedAll_substItems body hbody
  | tuple items, c', h => by
    rw [subst] at h
    obtain ⟨items', hitems, h⟩ := bind_eq_ok_iff.1 h
    cases h
    exact invokedAll_substItems items hitems
  | datum _, _, _ | const .., _, _ | op .., _, _ | name .., _, _ | attr .., _, _ | item .., _, _
  | call .., _, _ | pass _, _, _ | ret .., _, _ | var .., _, _ | cls .., _, _ | func .., _, _
  | bare .., _, _ => by simp

theorem invokedAll_substItems :
    ∀ (cs : List Code) {cs' : List Code}, substItems m cs = .ok cs' → invokedAll cs ⊆ invokedAll cs'
  | [], _, _ => nil_subset _
  | c :: rest, cs', h => by
    rw [substItems] at h
    split at h
    · obtain ⟨first, hfirst, h⟩ := bind_eq_ok_iff.1 h
      obtain ⟨more, hmore, h⟩ := bind_eq_ok_iff.1 h
      cases h
      exact append_subset_append (invoked_subst c hfirst) (invokedAll_substAll rest hmore)
    · cases h
      exact List.Subset.refl _

theorem invokedAll_substAll :
    ∀ (cs : List Code) {cs' : List Code}, substAll m cs = .ok cs' → invokedAll cs ⊆ invokedAll cs'
  | [], _, _ => nil_subset _
  | c :: rest, cs', h => by
    rw [substAll] at h
    obtain ⟨_, -, h⟩ := bind_eq_ok_iff.1 h
    obtain ⟨first, hfirst, h⟩ := bind_eq_ok_iff.1 h
    obtain ⟨more, hmore, h⟩ := bind_eq_ok_iff.1 h
    cases h
    exact append_subset_append (invoked_subst c hfirst) (invokedAll_substAll rest hmore)

end

theorem invoked_bind (h : c.bind m .usual = .ok c') : c.invoked ⊆ c'.invoked := by
  cases c with
  | assign r t v o =>
    rw [bind] at h
    obtain ⟨t', -, h⟩ := bind_eq_ok_iff.1 h
    obtain ⟨v', hv, h⟩ := bind_eq_ok_iff.1 h
    obtain ⟨_, -, h⟩ := bind_eq_ok_iff.1 h
    cases h
    cases v with
    | call r f args => exact callee_subst (c := .call r f args) hv
    | _ => simp
  | cond r t a b => exact invoked_subst (.cond r t a b) h
  | bareCall r v => exact invoked_subst (.bareCall r v) h
  | block r body => exact invoked_subst (.block r body) h
  | tuple items => cases h
  | _ => simp

/-! ## What is entered -/

/-- Some call of a function is entered without failing. -/
def Succeeds (enter : Enter) (f : String) : Prop :=
  ∃ args target aug out, enter (text f) args target aug = .ok out

variable {enter : Enter} {target aug : Code} {out : List Code}

theorem eq_text_of_mem_callee {r : Option Origin} {g args : Code} {f : String}
    (h : f ∈ (call r g args).callee) : g = text f := by
  unfold callee at h
  split at h
  · next heq =>
    cases heq
    rw [mem_singleton.1 h]
  · exact absurd h not_mem_nil

mutual

theorem succeeds_inlineWith : ∀ (c : Code) {out : List Code},
    inlineWith enter target aug c = .ok out → ∀ f ∈ c.invoked, Succeeds enter f
  | assign r t v o, out, h, f, hf => by
    cases v with
    | call s g args =>
      obtain rfl := eq_text_of_mem_callee hf
      exact ⟨args, t, o, out, h⟩
    | _ => exact absurd hf not_mem_nil
  | bareCall r v, out, h, f, hf => by
    cases v with
    | call s g args =>
      obtain rfl := eq_text_of_mem_callee hf
      exact ⟨args, nothing, nothing, out, h⟩
    | _ => exact absurd hf not_mem_nil
  | cond r t a b, out, h, f, hf => by
    rw [inlineWith] at h
    obtain ⟨body, ha, h⟩ := bind_eq_ok_iff.1 h
    obtain ⟨_, -, h⟩ := bind_eq_ok_iff.1 h
    obtain ⟨orelse, hb, -⟩ := bind_eq_ok_iff.1 h
    rcases mem_append.1 hf with hf | hf
    · exact succeeds_inlineBranch a ha f hf
    · exact succeeds_inlineBranch b hb f hf
  | block .., _, h, _, _ | tuple _, _, h, _, _ => nomatch h
  | datum _, _, _, _, hf | const .., _, _, _, hf | op .., _, _, _, hf | name .., _, _, _, hf
  | attr .., _, _, _, hf | item .., _, _, _, hf | call .., _, _, _, hf | pass _, _, _, _, hf
  | ret .., _, _, _, hf | var .., _, _, _, hf | cls .., _, _, _, hf | func .., _, _, _, hf
  | bare .., _, _, _, hf => absurd hf not_mem_nil

theorem succeeds_inlineBranch : ∀ (c : Code) {out : List Code},
    inlineBranch enter target aug c = .ok out → ∀ f ∈ c.invoked, Succeeds enter f
  | block _ body, _, h, f, hf => succeeds_inlineAll body h f hf
  | tuple items, _, h, f, hf => succeeds_inlineAll items h f hf
  | assign .., _, h, _, _ | bareCall .., _, h, _, _ | cond .., _, h, _, _ => nomatch h
  | datum _, _, _, _, hf | const .., _, _, _, hf | op .., _, _, _, hf | name .., _, _, _, hf
  | attr .., _, _, _, hf | item .., _, _, _, hf | call .., _, _, _, hf | pass _, _, _, _, hf
  | ret .., _, _, _, hf | var .., _, _, _, hf | cls .., _, _, _, hf | func .., _, _, _, hf
  | bare .., _, _, _, hf => absurd hf not_mem_nil

theorem succeeds_inlineAll : ∀ (cs : List Code) {out : List Code},
    inlineAll enter target aug cs = .ok out → ∀ f ∈ invokedAll cs, Succeeds enter f
  | [], _, _, _, hf => absurd hf not_mem_nil
  | c :: rest, out, h, f, hf => by
    obtain ⟨first, more, hfirst, hmore, rfl⟩ := inlineAll_cons_eq_ok h
    rcases mem_append.1 hf with hf | hf
    · exact succeeds_inlineWith c hfirst f hf
    · exact succeeds_inlineAll rest hmore f hf

end

theorem succeeds_inlineBody {scope : Substitution}
    (h : inlineBody enter target aug scope m stmts = .ok out) :
    ∀ f ∈ invokedAll stmts, Succeeds enter f := by
  induction stmts generalizing out with
  | nil => exact forall_mem_nil _
  | cons c stmts ih =>
    rw [inlineBody] at h
    obtain ⟨_, -, h⟩ := bind_eq_ok_iff.1 h
    obtain ⟨renamed, hrenamed, h⟩ := bind_eq_ok_iff.1 h
    obtain ⟨bound, hbound, h⟩ := bind_eq_ok_iff.1 h
    obtain ⟨first, hfirst, h⟩ := bind_eq_ok_iff.1 h
    obtain ⟨more, hmore, -⟩ := bind_eq_ok_iff.1 h
    refine forall_mem_append.2 ⟨fun f hf => ?_, ih hmore⟩
    exact succeeds_inlineWith bound hfirst f (invoked_bind hbound (invoked_subst c hrenamed hf))

theorem invoked_subset_items (h : c.items = .ok stmts) :
    c.invoked ⊆ invokedAll stmts := by
  cases c with
  | block r body =>
    cases h
    exact List.Subset.refl _
  | tuple items =>
    cases h
    exact List.Subset.refl _
  | assign | bareCall | cond => exact nomatch h
  | _ => exact nil_subset _

end Code

namespace Func

open Code

variable {defs : List Func} {stack : List String} {k n : String}

/-- `Invokes defs k n` says that the function `k` calls `n` by a statement or for the value of an
assignment, when its returns are normal. -/
def Invokes (defs : List Func) (k n : String) : Prop :=
  ∃ f body, Table.find? defs k = some f ∧ f.body.normalReturns = .ok body ∧ n ∈ body.invoked

/-- Some call of a function is inlined without failing, with the stack as it is. -/
def Entered (defs : List Func) (stack : List String) (k : String) : Prop :=
  ∃ f, Table.find? defs k = some f ∧ ∃ depth args target aug out,
    callAt (defs.map Func.code) tooDeep depth f.code args target aug (stack.map text) = .ok out

theorem Entered.step (h : Entered defs stack k) :
    k ∉ stack ∧ ∀ n, Invokes defs k n → Entered defs (stack ++ [k]) n := by
  obtain ⟨f, hf, depth, args, target, aug, out, hout⟩ := h
  have hname := List.find?_some hf
  obtain rfl : f.name = k := beq_iff_eq.1 hname
  cases depth with
  | zero => cases hout
  | succ depth =>
    obtain ⟨-, hstack, _, scope, body, stmts, -, -, hbody, hstmts, hin⟩ := callOnce_eq_ok_iff.1 hout
    refine ⟨fun hmem => Bool.false_ne_true (hstack.symm.trans (any_same_iff.2 hmem)), ?_⟩
    rintro n ⟨f', body', hf', hbody', hn⟩
    obtain rfl := Option.some.inj (hf.symm.trans hf')
    obtain rfl := Except.ok.inj (hbody.symm.trans hbody')
    obtain ⟨args', target', aug', out', henter⟩ :=
      succeeds_inlineBody hin n (invoked_subset_items hstmts hn)
    rw [entering, find?_map_code] at henter
    cases hg : defs.find? (fun g => g.name == n) with
    | none =>
      rw [hg] at henter
      obtain ⟨_, -, henter⟩ := bind_eq_ok_iff.1 henter
      cases henter
    | some g =>
      rw [hg] at henter
      rw [Entered, map_append]
      exact ⟨g, hg, depth, args', target', aug', out', henter⟩

/-- Along calls the stack grows by the functions on the way. -/
theorem Entered.trans (h : Entered defs stack k) (hway : Relation.TransGen (Invokes defs) k n) :
    ∃ more, k ∈ more ∧ Entered defs more n := by
  induction hway with
  | single hcall => exact ⟨stack ++ [k], by simp, h.step.2 _ hcall⟩
  | @tail b c _ hcall ih =>
    obtain ⟨more, hmore, hb⟩ := ih
    exact ⟨more ++ [b], mem_append_left _ hmore, hb.step.2 _ hcall⟩

/-- Calls nest no deeper than there are functions, whatever would be made of deeper ones, so that
inlining ends.  Where it does not fail, no function that is reached along calls can be reached from
itself. -/
theorem call_ends {f : Func} (hf : Table.find? defs f.name = some f) (args : List Code)
    (target : Option Code) (aug : Option String) (stack : List String) :
    (∀ deeper, callAt (defs.map Func.code) deeper (defs.length + 1) f.code (tuple args)
      (.ofOption target)
      (.ofText? aug) (stack.map text) = f.call defs args target aug stack) ∧
    ∀ out, f.call defs args target aug stack = .ok out →
      ¬ ∃ k, Relation.ReflTransGen (Invokes defs) f.name k ∧
      Relation.TransGen (Invokes defs) k k := by
  refine ⟨fun deeper => ?_, fun out hout => ?_⟩
  · have hdepth : callDepth (defs.map Func.code) = defs.length + 1 + 1 := by
      rw [callDepth, length_map]
    have hcard : (unused defs stack).card < defs.length + 1 := by
      refine Nat.lt_succ_of_le ((Finset.card_le_card Finset.sdiff_subset).trans ?_)
      exact (toFinset_card_le _).trans (length_map _).le
    rw [Func.call, callWith, hdepth, callAt_add _ tooDeep (defs.length + 1) 1]
    exact callAt_eq_of_card_lt _ _ (mem_of_find?_eq_some hf) _ _ _ hcard
  · rintro ⟨k, hreach, hcycle⟩
    have hentered : Entered defs stack f.name := ⟨f, hf, _, _, _, _, out, hout⟩
    obtain ⟨stack', hk⟩ : ∃ stack', Entered defs stack' k := by
      rcases Relation.reflTransGen_iff_eq_or_transGen.1 hreach with rfl | hreach
      · exact ⟨stack, hentered⟩
      · obtain ⟨more, -, hmore⟩ := hentered.trans hreach
        exact ⟨more, hmore⟩
    obtain ⟨more, hmem, hagain⟩ := hk.trans hcycle
    exact hagain.step.1 hmem

/-- A call in a call is inlined, and leads back to neither. -/
theorem call_ends_nested :
    Invokes [sampleOuter, sampleInner] "f" "g" ∧
    (∃ out, sampleOuter.call [sampleOuter, sampleInner] [constOf none (.int 3)]
      (some (nameOf none "y"))
      none ["h"] = .ok out) ∧
    ¬ ∃ k, Relation.ReflTransGen (Invokes [sampleOuter, sampleInner]) "f" k ∧
      Relation.TransGen (Invokes [sampleOuter, sampleInner]) k k := by
  have hok : (sampleOuter.call [sampleOuter, sampleInner] [constOf none (.int 3)]
      (some (nameOf none "y")) none ["h"]).isOk = true := by
    cbv
  cases hcall : sampleOuter.call [sampleOuter, sampleInner] [constOf none (.int 3)]
      (some (nameOf none "y")) none ["h"] with
  | error e =>
    rw [hcall] at hok
    exact absurd hok Bool.false_ne_true
  | ok out =>
    exact ⟨⟨sampleOuter, _, rfl, rfl, mem_cons_self⟩, ⟨out, rfl⟩,
      (call_ends rfl _ _ _ _).2 out hcall⟩

end Func

end DataDiagram
