import DataDiagram.Hom.Apply
import DataDiagram.Proofs.Text.Hole
/-!
# Contexts of applications

As long as names hold no braces, the context of an application is a template with one hole: every
step can fill it, and what the step puts there brings exactly one new hole.  Contexts then make an
application fail only where they have to show an integer with too many digits.
-/

namespace DataDiagram

open List

namespace Traced

variable {α β : Type}

@[simp] theorem outcome_pure (a : α) : (pure a : Traced α).outcome = .ok a := rfl

@[simp] theorem outcome_ofExcept (r : Except ApplyError α) : (ofExcept r).outcome = r := rfl

@[simp] theorem outcome_line (text : List Char) : (line text).outcome = .ok () := rfl

@[simp] theorem outcome_bind (t : Traced α) (f : α → Traced β) :
    (t >>= f).outcome = t.outcome.bind fun a => (f a).outcome := by
  show (t.andThen f).outcome = _
  unfold andThen
  cases t.outcome <;> rfl

theorem outcome_bind_of_ok {t : Traced α} {a : α} (h : t.outcome = .ok a) (f : α → Traced β) :
    (t >>= f).outcome = (f a).outcome := by
  rw [outcome_bind, h]
  rfl

/-! ## What can be shown -/

/-- An outcome that is reached only if what is shown before it can be. -/
def ifShown (displayable : Bool) (r : Except ApplyError α) : Except ApplyError α :=
  if displayable then r else .error .tooManyDigits

variable (a b : Bool) (r : Except ApplyError α)

@[simp] theorem ifShown_true : ifShown true r = r := rfl

@[simp] theorem ifShown_false : ifShown false r = .error .tooManyDigits := rfl

theorem ifShown_ifShown : ifShown a (ifShown b r) = ifShown (a && b) r := by
  cases a <;> rfl

theorem ifShown_bind (f : α → Except ApplyError β) :
    (ifShown a r).bind f = ifShown a (r.bind f) := by
  cases a <;> rfl

theorem outcome_require_bind (f : Unit → Traced β) :
    (require a >>= f).outcome = ifShown a (f ()).outcome := by
  rw [outcome_bind]
  cases a <;> rfl

end Traced

@[simp] theorem Datum.isDisplayable_str (s : String) : (Datum.str s).isDisplayable = true := by
  simp [isDisplayable]

/-! ## Texts without braces -/

namespace Text

theorem braceless_of_isDigit {s : List Char} (h : ∀ c ∈ s, c.isDigit = true) : Braceless s :=
  ⟨fun hc => absurd (h _ hc) (by decide), fun hc => absurd (h _ hc) (by decide)⟩

theorem braceless_natText (n : Nat) : Braceless n.repr.toList := by
  rw [Nat.toList_repr]
  exact braceless_of_isDigit fun _ hc => Nat.isDigit_of_mem_toDigits (by decide) (by decide) hc

theorem braceless_intText (n : Int) : Braceless (toString n).toList := by
  rw [Int.toString_eq_repr, Int.repr_eq_if]
  split
  · exact braceless_natText _
  · rw [String.toList_append, braceless_append]
    exact ⟨by simp, braceless_natText _⟩

theorem braceless_intercalate {sep : String} {parts : List String} (hsep : Braceless sep.toList)
    (hparts : ∀ p ∈ parts, Braceless p.toList) : Braceless (sep.intercalate parts).toList := by
  induction parts with
  | nil => simp
  | cons p parts ih =>
    have hp : Braceless p.toList := hparts p mem_cons_self
    have hrest := ih fun q hq => hparts q (mem_cons_of_mem p hq)
    cases parts with
    | nil => simpa using hp
    | cons q parts =>
      rw [String.intercalate_cons_cons, String.toList_append, String.toList_append,
        braceless_append, braceless_append]
      exact ⟨⟨hp, hsep⟩, hrest⟩

end Text

/-- An edge whose variable is a text without braces and whose value is an integer. -/
def Edge.Plain (e : Edge) : Prop :=
  (∃ s : String, e.1 = .str s ∧ Text.Braceless s.toList) ∧ ∃ n : Int, e.2.int? = some n

theorem Datum.braceless_text_of_int? {d : Datum} {n : Int} (h : d.int? = some n) :
    Text.Braceless d.text.toList := by
  cases d with
  | int m => exact Text.braceless_intText m
  | bool b => cases b <;> simp [Datum.text, Datum.display, Datum.boolText]
  | _ => simp [Datum.int?] at h

variable {e : Edge}

theorem Edge.Plain.braceless_text (h : e.Plain) :
    Text.Braceless (e.1.text ++ "=" ++ e.2.text).toList := by
  obtain ⟨⟨s, hs, hbraces⟩, n, hn⟩ := h
  rw [String.toList_append, String.toList_append, Text.braceless_append, Text.braceless_append]
  refine ⟨⟨?_, by simp⟩, Datum.braceless_text_of_int? hn⟩
  rw [hs]
  exact hbraces

theorem Edge.Plain.braceless_push (h : e.Plain) :
    Text.Braceless (Hom.push e.1 e.2).text.toList := by
  have htext := h.braceless_text
  simp only [String.toList_append, Text.braceless_append] at htext
  simp [Hom.text, htext]

theorem EdgeList.braceless_text {es : List Edge} (h : ∀ e ∈ es, Edge.Plain e) :
    Text.Braceless (EdgeList.ofEdges es).text.toList := by
  rw [EdgeList.text, edges_ofEdges, String.toList_append, String.toList_append,
    Text.braceless_append, Text.braceless_append]
  refine ⟨⟨by simp, Text.braceless_intercalate (by simp) ?_⟩, by simp⟩
  intro p hp
  obtain ⟨e, he, rfl⟩ := mem_map.1 hp
  exact (h e he).braceless_text

/-! ## Steps between contexts -/

namespace Context

open Text (OneHole Braceless)

theorem oneHole_hole : OneHole hole := ⟨[], [], rfl, by simp, by simp⟩

theorem outcome_fill {ctx filled text : List Char} (h : Text.fill ctx text = .ok filled) :
    (Context.fill ctx text).outcome = .ok filled := by
  rw [Context.fill, h]
  rfl

variable {ctx : Context}

theorem outcome_afterEdges (hctx : OneHole ctx) {n : EdgeList} (hn : Braceless n.text.toList)
    (hshown : n.isDisplayable = true) :
    ∃ ctx', (ctx.afterEdges n).outcome = .ok ctx' ∧ OneHole ctx' := by
  have harg : OneHole (n.text.toList ++ " + \x7b\x7d".toList) :=
    ⟨n.text.toList ++ " + ".toList, [], by simp, by simp [hn], by simp⟩
  obtain ⟨filled, hfill, hfilled⟩ := hctx.fill_eq harg
  have hold : Braceless "] + [".toList := by simp
  have hnew : Braceless ", ".toList := by simp
  refine ⟨_, ?_, hfilled.replaceAll hold hnew⟩
  rw [afterEdges, Traced.outcome_require_bind, hshown, Traced.ifShown_true,
    Traced.outcome_bind_of_ok (outcome_fill hfill)]
  rfl

theorem outcome_inside (hctx : OneHole ctx) {h : Hom} (hh : Braceless h.text.toList)
    (hshown : h.isDisplayable = true) :
    ∃ ctx', (ctx.inside h).outcome = .ok ctx' ∧ OneHole ctx' := by
  have harg : OneHole (h.text.toList ++ "(\x7b\x7d)".toList) :=
    ⟨h.text.toList ++ ['('], [')'], by simp, by simp [hh], by simp⟩
  obtain ⟨filled, hfill, hfilled⟩ := hctx.fill_eq harg
  refine ⟨filled, ?_, hfilled⟩
  rw [inside, Traced.outcome_require_bind, hshown, Traced.ifShown_true, outcome_fill hfill]

/-- Whether the line that shows `h` about to be applied to `t` can be left. -/
def canTrace (log : Bool) (h : Hom) (t : EdgeList) : Bool :=
  !log || (h.isDisplayable && t.isDisplayable)

/-- What is shown in a line may hold braces. -/
theorem outcome_trace (hctx : OneHole ctx) (log : Bool) (h : Hom) (t : EdgeList) :
    (ctx.trace log h t).outcome = Traced.ifShown (canTrace log h t) (.ok ()) := by
  obtain ⟨before, after, rfl, hbefore, hafter⟩ := hctx
  have hfill := outcome_fill
    (Text.fill_hole hbefore hafter (h.text.toList ++ '(' :: t.text.toList ++ [')']))
  cases log with
  | false => rfl
  | true =>
    rw [trace, if_pos rfl, Traced.outcome_require_bind, Traced.outcome_bind_of_ok hfill]
    rfl

variable {α : Type} {r : Except ApplyError α}

theorem outcome_afterEdges_bind (hctx : OneHole ctx) {n : EdgeList} (hn : Braceless n.text.toList)
    {f : Context → Traced α} (hf : ∀ ctx', OneHole ctx' → (f ctx').outcome = r) :
    (ctx.afterEdges n >>= f).outcome = Traced.ifShown n.isDisplayable r := by
  cases hshown : n.isDisplayable with
  | false =>
    rw [afterEdges, Traced.outcome_bind, Traced.outcome_require_bind, hshown]
    rfl
  | true =>
    obtain ⟨ctx', hafter, hctx'⟩ := outcome_afterEdges hctx hn hshown
    rw [Traced.outcome_bind_of_ok hafter, hf ctx' hctx', Traced.ifShown_true]

theorem outcome_inside_bind (hctx : OneHole ctx) {h : Hom} (hh : Braceless h.text.toList)
    {f : Context → Traced α} (hf : ∀ ctx', OneHole ctx' → (f ctx').outcome = r) :
    (ctx.inside h >>= f).outcome = Traced.ifShown h.isDisplayable r := by
  cases hshown : h.isDisplayable with
  | false =>
    rw [inside, Traced.outcome_bind, Traced.outcome_require_bind, hshown]
    rfl
  | true =>
    obtain ⟨ctx', hinside, hctx'⟩ := outcome_inside hctx hh hshown
    rw [Traced.outcome_bind_of_ok hinside, hf ctx' hctx', Traced.ifShown_true]

theorem outcome_trace_bind (hctx : OneHole ctx) (log : Bool) (h : Hom) (t : EdgeList)
    (f : Unit → Traced α) :
    (ctx.trace log h t >>= f).outcome = Traced.ifShown (canTrace log h t) (f ()).outcome := by
  rw [Traced.outcome_bind, outcome_trace hctx, Traced.ifShown_bind]
  rfl

end Context

end DataDiagram
