import DataDiagram.Proofs.Code.Names
import DataDiagram.Reading.Lower
import Mathlib.Data.List.Forall2
/-!
# Code up to origins

Two pieces of code that have been read in different ways may differ in where they come from.
-/

namespace DataDiagram

open List

namespace Code

mutual

/-- A piece of code without origins. -/
def placeless : Code → Code
  | datum d => datum d
  | tuple items => tuple (placelessAll items)
  | const _ v => const none (placeless v)
  | op _ o cs => op none (placeless o) (placeless cs)
  | name _ id => name none (placeless id)
  | attr _ v a => attr none (placeless v) (placeless a)
  | item _ v i => item none (placeless v) (placeless i)
  | call _ f as => call none (placeless f) (placeless as)
  | block _ body => block none (placelessAll body)
  | pass _ => pass none
  | assign _ t v o => assign none (placeless t) (placeless v) (placeless o)
  | cond _ t a b => cond none (placeless t) (placeless a) (placeless b)
  | ret _ v => ret none (placeless v)
  | bareCall _ c => bareCall none (placeless c)
  | var _ n t s i => var none (placeless n) (placeless t) (placeless s) (placeless i)
  | cls _ n fs ps => cls none (placeless n) (placeless fs) (placeless ps)
  | func _ n as b gs ls =>
    func none (placeless n) (placeless as) (placeless b) (placeless gs) (placeless ls)
  | bare _ kind => bare none kind

/-- Several pieces of code without origins. -/
def placelessAll : List Code → List Code
  | [] => []
  | c :: rest => placeless c :: placelessAll rest

end

attribute [local simp] placeless placelessAll mentioned mentionedAll texts

theorem isLookup_placeless (c : Code) : c.placeless.isLookup = c.isLookup := by cases c <;> rfl

theorem placelessAll_append (cs ds : List Code) :
    placelessAll (cs ++ ds) = placelessAll cs ++ placelessAll ds := by
  induction cs with
  | nil => rfl
  | cons c cs ih => simp [ih]

mutual

theorem flatten_placeless : ∀ c : Code, c.placeless.flatten = placelessAll c.flatten
  | tuple items => flattenAll_placeless items
  | block _ body => flattenAll_placeless body
  | datum _ | const .. | op .. | name .. | attr .. | item .. | call .. | pass _ | assign ..
  | cond .. | ret .. | bareCall .. | var .. | cls .. | func .. | bare .. => rfl

theorem flattenAll_placeless : ∀ cs : List Code,
    flattenAll (placelessAll cs) = placelessAll (flattenAll cs)
  | [] => rfl
  | c :: rest => by
    rw [placelessAll, flattenAll, flattenAll, placelessAll_append, flatten_placeless c,
      flattenAll_placeless rest]

end

mutual

theorem mentionedAll_flatten : ∀ c : Code, mentionedAll c.flatten = c.mentioned
  | tuple items => mentionedAll_flattenAll items
  | block _ body => mentionedAll_flattenAll body
  | datum _ | const .. | op .. | name .. | attr .. | item .. | call .. | pass _ | assign ..
  | cond .. | ret .. | bareCall .. | var .. | cls .. | func .. | bare .. => append_nil _

theorem mentionedAll_flattenAll : ∀ cs : List Code,
    mentionedAll (flattenAll cs) = mentionedAll cs
  | [] => rfl
  | c :: rest => by
    rw [flattenAll, mentionedAll_eq_flatMap, flatMap_append, ← mentionedAll_eq_flatMap,
      ← mentionedAll_eq_flatMap, mentionedAll_flatten c, mentionedAll_flattenAll rest, mentionedAll]

end

/-- Two pieces of code that differ in origins only, and in which a name does not occur. -/
structure Matches (x : String) (c c' : Code) : Prop where
  eq : c.placeless = c'.placeless
  free : x ∉ c.mentioned

namespace Matches

variable {x s : String} {a a' b b' c c' : Code} {cs cs' : List Code} {r r' : Option Origin}

theorem all (h : Forall₂ (Matches x) cs cs') :
    placelessAll cs = placelessAll cs' ∧ x ∉ mentionedAll cs := by
  induction h with
  | nil => simp
  | cons h _ ih => simp [h.eq, h.free, ih]

theorem opOf (h : Forall₂ (Matches x) cs cs') : Matches x (.opOf r s cs) (.opOf r' s cs') := by
  obtain ⟨heq, hfree⟩ := all h
  exact ⟨by simp [heq], by simpa using hfree⟩

theorem callOf (h : Forall₂ (Matches x) cs cs') :
    Matches x (.callOf r s cs) (.callOf r' s cs') := by
  obtain ⟨heq, hfree⟩ := all h
  exact ⟨by simp [heq], by simpa using hfree⟩

theorem attrOf (h : Matches x c c') : Matches x (.attrOf r c s) (.attrOf r' c' s) :=
  ⟨by simp [h.eq], by simpa using h.free⟩

theorem item (ha : Matches x a a') (hb : Matches x b b') :
    Matches x (.item r a b) (.item r' a' b') :=
  ⟨by simp [ha.eq, hb.eq], by simp [ha.free, hb.free]⟩

theorem withRef (h : Matches x c c') : Matches x (Reading.withRef r c) (Reading.withRef r' c') := by
  have hplace (c : Code) (r : Option Origin) : (Reading.withRef r c).placeless = c.placeless := by
    cases c <;> rfl
  have hnames (c : Code) (r : Option Origin) : (Reading.withRef r c).mentioned = c.mentioned := by
    cases c <;> rfl
  exact ⟨by rw [hplace, hplace, h.eq], by rw [hnames]; exact h.free⟩

theorem mkBlock (h : Forall₂ (Matches x) cs cs') : Matches x (.mkBlock r cs) (.mkBlock r' cs') := by
  obtain ⟨heq, hfree⟩ := all h
  refine ⟨?_, ?_⟩
  · rw [Code.mkBlock, Code.mkBlock, placeless, placeless, ← flattenAll_placeless, heq,
      flattenAll_placeless]
  · rw [Code.mkBlock, mentioned, mentionedAll_flattenAll]
    exact hfree

theorem isLookup_eq (h : Matches x c c') : c'.isLookup = c.isLookup := by
  rw [← isLookup_placeless, ← h.eq, isLookup_placeless]

theorem assign (ha : Matches x a a') (hb : Matches x b b') (o : Option String) :
    Matches x (.assign r a b (.ofText? o)) (.assign r' a' b' (.ofText? o)) :=
  ⟨by simp [ha.eq, hb.eq], by simp [ha.free, hb.free, mentioned_ofText?]⟩

theorem ret (h : Matches x c c') : Matches x (.ret r c) (.ret r' c') :=
  ⟨by simp [h.eq], by simpa using h.free⟩

theorem bareCall (h : Matches x c c') : Matches x (.bareCall r c) (.bareCall r' c') :=
  ⟨by simp [h.eq], by simpa using h.free⟩

theorem cond (hc : Matches x c c') (ha : Matches x a a') (hb : Matches x b b') :
    Matches x (.cond r c a b) (.cond r' c' a' b') :=
  ⟨by simp [hc.eq, ha.eq, hb.eq], by simp [hc.free, ha.free, hb.free]⟩

end Matches

end Code

end DataDiagram
