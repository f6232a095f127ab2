import DataDiagram.Proofs.Hom.Assign
import DataDiagram.Proofs.Text.Jammed
/-!
# Composition

Applying a composition hands the path to its second part inside of a context that shows the first
one.  As long as names hold no braces, such a context has one hole, or it shows coefficients and
cannot be filled at all.  Two contexts of the same sort make no difference to an application, not
even to how it fails.  So a composition without coefficients in its first part has the outcome of
its parts one after the other, and any composition that has an outcome has this one.
-/

namespace DataDiagram

/-! ## Texts of homomorphisms -/

namespace Text

theorem braceless_hexDigits (width n : Nat) : Braceless (hexDigits width n) := by
  have hdigit : ∀ n < 16, hexDigit n ≠ '{' ∧ hexDigit n ≠ '}' := by decide
  induction width generalizing n with
  | zero => simp [hexDigits]
  | succ width ih => simp [hexDigits, ih, hdigit _ (Nat.mod_lt n (by decide : 0 < 16))]

theorem braceless_quotedChar (mark : Char) {c : Char} (hc : c ≠ '{' ∧ c ≠ '}') :
    Braceless (quotedChar mark c) := by
  have hnumeric : Braceless (numericEscape c) := by
    unfold numericEscape
    dsimp only
    split
    · simp [braceless_hexDigits]
    split <;> simp [braceless_hexDigits]
  unfold quotedChar
  split
  · simp [hc]
  split
  · simp
  split
  · simp
  split
  · simp
  split
  · simp [hc]
  · exact hnumeric

theorem quoteMark_eq (s : List Char) : quoteMark s = '\'' ∨ quoteMark s = '"' := by
  unfold quoteMark
  split <;> simp

theorem braceless_quoted {s : List Char} (hs : Braceless s) : Braceless (quoted s) := by
  have hbody (mark : Char) : Braceless (s.flatMap (quotedChar mark)) := by
    induction s with
    | nil => simp
    | cons c s ih =>
      rw [braceless_cons] at hs
      rw [List.flatMap_cons, braceless_append]
      exact ⟨braceless_quotedChar mark hs.1, ih hs.2⟩
  rcases quoteMark_eq s with hmark | hmark <;> simp [quoted, hmark, hbody]

end Text

namespace Coefficients

open Text (Braceless)

theorem braceless_entry {c : Edge} (hc : c.Plain) :
    Braceless (c.1.display ++ ": " ++ c.2.display).toList := by
  obtain ⟨⟨s, hs, hbraces⟩, n, hn⟩ := hc
  have hkey : Braceless c.1.display.toList := by
    rw [hs, Datum.display, Text.quote, String.toList_ofList]
    exact Text.braceless_quoted hbraces
  have hvalue : c.2.text = c.2.display := by
    cases hc2 : c.2 <;> simp_all [Datum.int?, Datum.text]
  have hnumber := Datum.braceless_text_of_int? hn
  rw [hvalue] at hnumber
  simp [hkey, hnumber]

theorem entries_text {coef : Coefficients} (hcoef : ∀ c ∈ coef, Edge.Plain c) :
    Text.Entries coef.text.toList := by
  have hshown : coef.text.toList =
      '{' :: ((", ".intercalate (Datum.displayEntries coef)).toList ++ ['}']) := by
    simp [text, Datum.display, Datum.bracedText]
  have hparts : ∀ p ∈ Datum.displayEntries coef, Braceless p.toList := by
    clear hshown
    induction coef with
    | nil => simp [Datum.displayEntries]
    | cons c coef ih =>
      rw [List.forall_mem_cons] at hcoef
      simp only [Datum.displayEntries, List.forall_mem_cons]
      exact ⟨braceless_entry hcoef.1, ih hcoef.2⟩
  have hinside : Braceless (", ".intercalate (Datum.displayEntries coef)).toList :=
    Text.braceless_intercalate (by simp) hparts
  cases coef with
  | nil =>
    rw [hshown]
    exact .none
  | cons c coef =>
    obtain ⟨⟨s, hs, -⟩, -⟩ := hcoef c List.mem_cons_self
    obtain ⟨body, hbody⟩ : ∃ body, (", ".intercalate (Datum.displayEntries (c :: coef))).toList =
        Text.quoteMark s.toList :: body := by
      have hkey : c.1.display.toList = Text.quoted s.toList := by
        rw [hs, Datum.display, Text.quote, String.toList_ofList]
      cases hmore : Datum.displayEntries coef with
      | nil => exact ⟨_, by simp [Datum.displayEntries, hmore, hkey, Text.quoted]; rfl⟩
      | cons p more =>
        exact ⟨_, by
          simp [Datum.displayEntries, hmore, String.intercalate_cons_cons, hkey, Text.quoted]
          rfl⟩
    rw [hbody, Text.braceless_cons] at hinside
    rw [hshown, hbody]
    exact .some (Text.quoteMark_eq _) hinside.2

end Coefficients

namespace Hom

open Text (OneHole Braceless Fielded)

/-- A homomorphism all of whose names are texts without braces and all of whose numbers are
integers. -/
def IsPlain : Hom → Prop
  | identity => True
  | push var val => Edge.Plain (var, val)
  | gather tgt coef inc | assign tgt coef inc =>
    Edge.Plain (tgt, inc) ∧ ∀ c ∈ coef, Edge.Plain c
  | compose one two => one.IsPlain ∧ two.IsPlain
  | stuck .. => False

/-- Whether a homomorphism is built from identities and pushed edges. -/
def pushesOnly : Hom → Bool
  | identity | push .. => true
  | compose one two => one.pushesOnly && two.pushesOnly
  | gather .. | assign .. | stuck .. => false

variable {h : Hom}

theorem fielded_text (hh : h.IsPlain) : Fielded h.text.toList := by
  have hcoef {tgt inc : Datum} {coef : Coefficients} (hedge : Edge.Plain (tgt, inc))
      (hcoef : ∀ c ∈ coef, Edge.Plain c) (last : String) (hlast : Braceless last.toList) :
      Fielded ("<" ++ tgt.text ++ "=" ++ coef.text ++ "+" ++ inc.text ++ last).toList := by
    have htext := hedge.braceless_text
    simp only [String.toList_append, Text.braceless_append] at htext
    have hend : Fielded ("+" ++ inc.text ++ last).toList := .plain (by simp [htext, hlast])
    have hshown := Fielded.entries (s := ("<" ++ tgt.text ++ "=").toList) (by simp [htext])
      (Coefficients.entries_text hcoef) hend
    simpa using hshown
  induction h with
  | identity => exact .plain (by simp [text])
  | push var val => exact .plain hh.braceless_push
  | gather tgt coef inc => exact hcoef hh.1 hh.2 "|>" (by simp)
  | assign tgt coef inc => exact hcoef hh.1 hh.2 ">" (by simp)
  | compose one two ihone ihtwo =>
    have hopen : Fielded ['('] := .plain (by simp)
    have hbetween : Fielded " * ".toList := .plain (by simp)
    have hclose : Fielded [')'] := .plain (by simp)
    have hshown := hopen.append ((ihone hh.1).append
      (hbetween.append ((ihtwo hh.2).append hclose)))
    simpa [text] using hshown
  | stuck => exact hh.elim

/-- Only coefficients show braces. -/
theorem braceless_text_iff (hh : h.IsPlain) : Braceless h.text.toList ↔ h.pushesOnly = true := by
  have hcoef (coef : Coefficients) : ¬Braceless coef.text.toList := by
    intro hbraces
    simp [Coefficients.text, Datum.display, Datum.bracedText] at hbraces
  induction h with
  | identity => simp [text, pushesOnly]
  | push var val => simpa [pushesOnly] using hh.braceless_push
  | gather tgt coef inc => simp [text, pushesOnly, hcoef]
  | assign tgt coef inc => simp [text, pushesOnly, hcoef]
  | compose one two ihone ihtwo =>
    have hone := ihone hh.1
    have htwo := ihtwo hh.2
    simp [text, pushesOnly, hone, htwo]
  | stuck => exact hh.elim

end Hom

/-! ## Contexts of the same sort -/

namespace Traced

variable {α β : Type}

/-- Outcomes agree: the same failure, or related values. -/
def Agree (R : α → α → Prop) : Except ApplyError α → Except ApplyError α → Prop
  | .ok a, .ok b => R a b
  | .error e, .error e' => e = e'
  | _, _ => False

variable {f g : α → Traced β} {t u : Traced α}

theorem outcome_bind_congr {R : α → α → Prop}
    (h : Agree R t.outcome u.outcome) (hf : ∀ a b, R a b → (f a).outcome = (g b).outcome) :
    (t >>= f).outcome = (u >>= g).outcome := by
  rw [outcome_bind, outcome_bind]
  cases ht : t.outcome with
  | error e =>
    cases hu : u.outcome with
    | error e' =>
      rw [ht, hu] at h
      exact congrArg Except.error h
    | ok b =>
      rw [ht, hu] at h
      exact h.elim
  | ok a =>
    cases hu : u.outcome with
    | error e' =>
      rw [ht, hu] at h
      exact h.elim
    | ok b =>
      rw [ht, hu] at h
      exact hf a b h

theorem outcome_bind_of_eq (h : t.outcome = u.outcome)
    (hf : ∀ a, (f a).outcome = (g a).outcome) : (t >>= f).outcome = (u >>= g).outcome := by
  rw [outcome_bind, outcome_bind, h]
  exact congrArg _ (funext hf)

theorem exists_of_outcome_bind {b : β}
    (h : (t >>= f).outcome = .ok b) : ∃ a, t.outcome = .ok a ∧ (f a).outcome = .ok b := by
  rw [outcome_bind] at h
  cases ht : t.outcome with
  | error e =>
    rw [ht] at h
    cases h
  | ok a =>
    rw [ht] at h
    exact ⟨a, rfl, h⟩

theorem ifShown_error_ne {shown : Bool} {e : ApplyError} {a : α} :
    ifShown shown (.error e) ≠ .ok a := by
  cases shown <;> simp

end Traced

namespace Context

open Text (OneHole Braceless)

/-- A context with one hole, in which all that is open is closed right after the hole. -/
def IsOpen (ctx : Context) : Prop :=
  ∃ before count, ctx = before ++ '{' :: '}' :: List.replicate count ')' ∧ Braceless before

/-- A context that cannot be filled. -/
def IsJammed (ctx : Context) (e : Text.TemplateError) : Prop :=
  ∀ text, Text.fill ctx text = .error e

/-- Contexts of the same sort: both have one hole, or neither can be filled, for the same reason. -/
def Alike (ctx ctx' : Context) : Prop :=
  (ctx.IsOpen ∧ ctx'.IsOpen) ∨ ∃ e, ctx.IsJammed e ∧ ctx'.IsJammed e

theorem isOpen_hole : IsOpen hole := ⟨[], 0, rfl, by simp⟩

theorem braceless_replicate (count : Nat) : Braceless (List.replicate count ')') := by
  constructor <;> simp

variable {ctx ctx' : Context} {n : EdgeList} {h : Hom}

theorem IsOpen.oneHole (h : ctx.IsOpen) : OneHole ctx := by
  obtain ⟨before, count, rfl, hbefore⟩ := h
  exact ⟨before, _, rfl, hbefore, braceless_replicate count⟩

variable {e : Text.TemplateError}

theorem IsJammed.outcome_fill (h : ctx.IsJammed e)
    (text : List Char) : (ctx.fill text).outcome = .error (.context e) := by
  rw [fill, h]
  rfl

theorem IsJammed.outcome_fill_bind (h : ctx.IsJammed e)
    (text : List Char) {α : Type} (f : List Char → Traced α) :
    (ctx.fill text >>= f).outcome = .error (.context e) := by
  rw [Traced.outcome_bind, h.outcome_fill]
  rfl

theorem replaceAll_replicate (new : List Char) (count : Nat) :
    Text.replaceAll "] + [".toList new (List.replicate count ')') = List.replicate count ')' := by
  induction count with
  | zero => rfl
  | succ count ih =>
    have hmiss : (!"] + [".toList.isEmpty &&
        "] + [".toList.isPrefixOf (')' :: List.replicate count ')')) = false := by
      simp [List.isPrefixOf]
    rw [Text.replaceAll] at ih
    rw [List.replicate_succ, Text.replaceAll, Text.replaceFrom]
    simp only [hmiss, Bool.false_eq_true, if_false, ih]

theorem IsOpen.outcome_afterEdges (hctx : ctx.IsOpen) (hn : Braceless n.text.toList)
    (hshown : n.isDisplayable = true) :
    ∃ ctx', (ctx.afterEdges n).outcome = .ok ctx' ∧ ctx'.IsOpen := by
  obtain ⟨before, count, rfl, hbefore⟩ := hctx
  have hfill := Context.outcome_fill
    (Text.fill_hole hbefore (braceless_replicate count) (n.text.toList ++ " + \x7b\x7d".toList))
  rw [afterEdges, Traced.outcome_require_bind, hshown, Traced.ifShown_true,
    Traced.outcome_bind_of_ok hfill]
  refine ⟨_, rfl,
    Text.replaceAll "] + [".toList ", ".toList (before ++ n.text.toList ++ " + ".toList),
    count, ?_, ?_⟩
  · have hclose := Text.replaceFrom_append_cons (c := '}') (by decide : '}' ∉ "] + [".toList)
      ", ".toList 0 [] (List.replicate count ')') (Nat.zero_le _)
    have hopen := Text.replaceFrom_append_cons (c := '{') (by decide : '{' ∉ "] + [".toList)
      ", ".toList 0 (before ++ n.text.toList ++ " + ".toList) ('}' :: List.replicate count ')')
      (Nat.zero_le _)
    have hrest := replaceAll_replicate ", ".toList count
    rw [Text.replaceAll] at hrest
    rw [List.nil_append, hrest] at hclose
    rw [hclose] at hopen
    have hshape : before ++ (n.text.toList ++ " + \x7b\x7d".toList) ++ List.replicate count ')' =
        before ++ n.text.toList ++ " + ".toList ++ '{' :: '}' :: List.replicate count ')' := by
      simp
    rw [hshape, Text.replaceAll, hopen]
    rfl
  · exact Braceless.replaceAll (by simp) (by simp [hbefore, hn])

theorem IsJammed.outcome_afterEdges (h : ctx.IsJammed e) (n : EdgeList) :
    (ctx.afterEdges n).outcome = Traced.ifShown n.isDisplayable (.error (.context e)) := by
  rw [Context.afterEdges, Traced.outcome_require_bind, h.outcome_fill_bind]

theorem IsJammed.outcome_afterEdges_ne (h : ctx.IsJammed e) (n : EdgeList) (ctx' : Context) :
    (ctx.afterEdges n).outcome ≠ .ok ctx' := by
  rw [h.outcome_afterEdges]
  exact Traced.ifShown_error_ne

theorem IsJammed.outcome_inside (hctx : ctx.IsJammed e) (h : Hom) :
    (ctx.inside h).outcome = Traced.ifShown h.isDisplayable (.error (.context e)) := by
  rw [Context.inside, Traced.outcome_require_bind, hctx.outcome_fill]

theorem IsJammed.outcome_inside_ne (hctx : ctx.IsJammed e) (h : Hom) (ctx' : Context) :
    (ctx.inside h).outcome ≠ .ok ctx' := by
  rw [hctx.outcome_inside]
  exact Traced.ifShown_error_ne

theorem IsJammed.outcome_trace (hctx : ctx.IsJammed e) (h : Hom) (t : EdgeList) :
    (ctx.trace true h t).outcome =
      Traced.ifShown (h.isDisplayable && t.isDisplayable) (.error (.context e)) := by
  rw [Context.trace, if_pos rfl, Traced.outcome_require_bind, hctx.outcome_fill_bind]

/-- What cannot be shown fails in every context. -/
theorem outcome_afterEdges_of_long (ctx : Context) (hlong : n.isDisplayable = false) :
    (ctx.afterEdges n).outcome = .error .tooManyDigits := by
  rw [Context.afterEdges, Traced.outcome_require_bind, hlong, Traced.ifShown_false]

theorem outcome_inside_of_long (ctx : Context) (hlong : h.isDisplayable = false) :
    (ctx.inside h).outcome = .error .tooManyDigits := by
  rw [Context.inside, Traced.outcome_require_bind, hlong, Traced.ifShown_false]

theorem Alike.afterEdges (h : ctx.Alike ctx') (hn : Braceless n.text.toList) :
    Traced.Agree Alike (ctx.afterEdges n).outcome (ctx'.afterEdges n).outcome := by
  cases hshown : n.isDisplayable with
  | false =>
    rw [outcome_afterEdges_of_long ctx hshown, outcome_afterEdges_of_long ctx' hshown]
    exact rfl
  | true =>
    rcases h with ⟨hctx, hctx'⟩ | ⟨e, hctx, hctx'⟩
    · obtain ⟨next, hnext, hopen⟩ := hctx.outcome_afterEdges hn hshown
      obtain ⟨next', hnext', hopen'⟩ := hctx'.outcome_afterEdges hn hshown
      rw [hnext, hnext']
      exact .inl ⟨hopen, hopen'⟩
    · rw [hctx.outcome_afterEdges, hctx'.outcome_afterEdges, hshown]
      exact rfl

theorem outcome_inside_eq {before : List Char} (hbefore : Braceless before) (count : Nat) {h : Hom}
    (hshown : h.isDisplayable = true) :
    (Context.inside (before ++ '{' :: '}' :: List.replicate count ')') h).outcome =
      .ok (before ++ (h.text.toList ++ Text.closed count)) := by
  have hfill := Context.outcome_fill (Text.fill_hole hbefore (braceless_replicate count)
    (h.text.toList ++ "(\x7b\x7d)".toList))
  rw [inside, Traced.outcome_require_bind, hshown, Traced.ifShown_true, hfill]
  simp [Text.closed, List.replicate_succ]

theorem IsOpen.outcome_inside_of_braceless (hctx : ctx.IsOpen) (hbraces : Braceless h.text.toList)
    (hshown : h.isDisplayable = true) :
    ∃ ctx', (ctx.inside h).outcome = .ok ctx' ∧ ctx'.IsOpen := by
  obtain ⟨before, count, rfl, hbefore⟩ := hctx
  refine ⟨_, outcome_inside_eq hbefore count hshown, before ++ h.text.toList ++ ['('], count + 1,
    ?_, ?_⟩
  · simp [Text.closed]
  · simp [hbefore, hbraces]

/-- A context that shows a homomorphism stays open, or is jammed for a reason that only depends on
the homomorphism. -/
theorem IsOpen.outcome_inside (hh : h.IsPlain) (hshown : h.isDisplayable = true) :
    (∀ ctx : Context, ctx.IsOpen → ∃ ctx', (ctx.inside h).outcome = .ok ctx' ∧ ctx'.IsOpen) ∨
      ∃ e, ∀ ctx : Context, ctx.IsOpen →
        ∃ ctx', (ctx.inside h).outcome = .ok ctx' ∧ ctx'.IsJammed e := by
  by_cases hbraces : Braceless h.text.toList
  · exact .inl fun ctx hctx => hctx.outcome_inside_of_braceless hbraces hshown
  · right
    obtain ⟨e, he⟩ := Text.exists_fill_eq_error (Hom.fielded_text hh) hbraces
    refine ⟨e, ?_⟩
    rintro ctx ⟨before, count, rfl, hbefore⟩
    exact ⟨_, outcome_inside_eq hbefore count hshown, fun text => he before count text hbefore⟩

theorem Alike.inside (hctx : ctx.Alike ctx') (hh : h.IsPlain) :
    Traced.Agree Alike (ctx.inside h).outcome (ctx'.inside h).outcome := by
  cases hshown : h.isDisplayable with
  | false =>
    rw [outcome_inside_of_long ctx hshown, outcome_inside_of_long ctx' hshown]
    exact rfl
  | true =>
    rcases hctx with ⟨hctx, hctx'⟩ | ⟨e, hctx, hctx'⟩
    · rcases IsOpen.outcome_inside hh hshown with hopen | ⟨e, hjam⟩
      · obtain ⟨next, hnext, hnextopen⟩ := hopen ctx hctx
        obtain ⟨next', hnext', hnextopen'⟩ := hopen ctx' hctx'
        rw [hnext, hnext']
        exact .inl ⟨hnextopen, hnextopen'⟩
      · obtain ⟨next, hnext, hnextjam⟩ := hjam ctx hctx
        obtain ⟨next', hnext', hnextjam'⟩ := hjam ctx' hctx'
        rw [hnext, hnext']
        exact .inr ⟨e, hnextjam, hnextjam'⟩
    · rw [hctx.outcome_inside, hctx'.outcome_inside, hshown]
      exact rfl

theorem Alike.outcome_trace (h : ctx.Alike ctx') (log : Bool) (hom : Hom)
    (t : EdgeList) : (ctx.trace log hom t).outcome = (ctx'.trace log hom t).outcome := by
  rcases h with ⟨hctx, hctx'⟩ | ⟨e, hctx, hctx'⟩
  · rw [Context.outcome_trace hctx.oneHole, Context.outcome_trace hctx'.oneHole]
  · cases log with
    | false => rfl
    | true => rw [hctx.outcome_trace, hctx'.outcome_trace]

end Context

/-! ## What applications give -/

namespace EdgeList

theorem isIntegral_ofEdges {es : List Edge} (hes : ∀ e ∈ es, Edge.Plain e) :
    (ofEdges es).IsIntegral := by
  refine ⟨balanced_ofEdges es, ?_, ?_⟩
  · intro k hk
    obtain ⟨e, he, rfl⟩ := List.mem_map.1 hk
    exact (hes e he).1
  · intro v hv
    obtain ⟨e, he, rfl⟩ := List.mem_map.1 hv
    exact (hes e he).2

theorem isIntegral_empty : EdgeList.empty.IsIntegral := by
  refine ⟨rfl, ?_, ?_⟩ <;> simp [empty]

/-- A path of integers is the empty one, or has an edge on top of a path of integers. -/
theorem IsIntegral.cases {d : EdgeList} (hd : d.IsIntegral) :
    d = .empty ∨ ∃ top rest, d = ofEdges (top :: rest) ∧ top.Plain ∧ ∀ e ∈ rest, Edge.Plain e := by
  have hplain := hd.plain
  have heq := ofEdges_edges hd.balanced
  cases hedges : d.edges with
  | nil =>
    rw [hedges] at heq
    exact .inl heq.symm
  | cons top rest =>
    rw [hedges] at heq hplain
    rw [List.forall_mem_cons] at hplain
    exact .inr ⟨top, rest, heq.symm, hplain.1, hplain.2⟩

end EdgeList

variable {n : Int}

theorem Datum.int?_eq_some {v : Datum} :
    v.int? = some n ↔ v = .int n ∨ ∃ b : Bool, v = .bool b ∧ n = if b then 1 else 0 := by
  cases v <;> simp [int?, eq_comm]

/-- A target stays plain when the weight of an edge is added to its value. -/
theorem Coefficients.plain_of_weigh {coef : Coefficients} (hcoef : ∀ c ∈ coef, Edge.Plain c)
    {e : Edge} (he : e.Plain) {tgt inc inc' : Datum} (htgt : Edge.Plain (tgt, inc))
    (h : coef.weigh e.1 e.2 inc = .ok inc') : Edge.Plain (tgt, inc') := by
  obtain ⟨⟨s, hs, -⟩, x, hx⟩ := he
  obtain ⟨hname, n, hinc⟩ := htgt
  have hhash : e.1.unhashable? = none := by rw [hs]; rfl
  rw [weigh, hhash] at h
  cases hlook : Datum.lookup coef e.1 with
  | none =>
    rw [hlook] at h
    cases h
  | some c =>
    have hintegral : coef.Integral := fun c hc => (hcoef c hc).2
    obtain ⟨k, hk⟩ := hintegral.lookup hlook
    have hmul : e.2.mul c = .ok (.int (x * k)) := by
      rw [Datum.mul, Datum.number?_of_int? hx, Datum.number?_of_int? hk]
      rfl
    have hadd : (Datum.int (x * k)).add inc = .ok (.int (x * k + n)) := by
      rcases Datum.int?_eq_some.1 hinc with rfl | ⟨b, rfl, rfl⟩
      · rfl
      · cases b <;> rfl
    rw [hlook] at h
    simp only [hmul, bind, Except.bind, hadd, Except.mapError] at h
    cases h
    exact ⟨hname, _, rfl⟩

namespace Hom

open Text (Braceless)

variable {log : Bool} {ctx ctx' : Context} {coef : Coefficients} {tgt inc : Datum}

theorem applyPush_cons (log : Bool) (e : Edge) (ctx : Context) (top : Edge) (rest : List Edge) :
    applyPush log e.1 e.2 ctx (.ofEdges (top :: rest)) = do
      let ctx ← ctx.afterEdges (.ofEdges [top, e])
      ctx.trace log .identity (.ofEdges rest)
      return .ofEdges (top :: e :: rest) := by
  have htail : (EdgeList.ofEdges (top :: rest)).tail = .ofEdges rest := by
    rw [EdgeList.tail, EdgeList.edges_ofEdges, List.tail_cons]
  rw [applyPush, htail]
  rfl

variable {d n : EdgeList} {es : List Edge} {h : Hom}

theorem isIntegral_of_applyPush {e : Edge} (he : e.Plain) (hd : d.IsIntegral)
    (h : (applyPush log e.1 e.2 ctx d).outcome = .ok n) : n.IsIntegral := by
  rcases hd.cases with rfl | ⟨top, rest, rfl, htop, hrest⟩
  · cases h
    exact hd
  · rw [applyPush_cons] at h
    obtain ⟨next, -, h⟩ := Traced.exists_of_outcome_bind h
    obtain ⟨-, -, h⟩ := Traced.exists_of_outcome_bind h
    cases h
    exact EdgeList.isIntegral_ofEdges (by simpa [htop, he] using hrest)

theorem isIntegral_of_applyGather (hcoef : ∀ c ∈ coef, Edge.Plain c)
    (htgt : Edge.Plain (tgt, inc)) (hes : ∀ e ∈ es, Edge.Plain e)
    (h : (applyGather log tgt coef inc ctx es).outcome = .ok n) : n.IsIntegral := by
  induction es generalizing inc ctx n with
  | nil =>
    cases h
    rw [EdgeList.single_eq_ofEdges]
    exact EdgeList.isIntegral_ofEdges (by simpa using htgt)
  | cons e rest ih =>
    rw [List.forall_mem_cons] at hes
    rw [applyGather] at h
    cases hweigh : coef.weigh e.1 e.2 inc with
    | error cause =>
      rw [hweigh] at h
      cases h
    | ok inc' =>
      have htgt' := Coefficients.plain_of_weigh hcoef hes.1 htgt hweigh
      rw [hweigh] at h
      obtain ⟨-, -, h⟩ := Traced.exists_of_outcome_bind h
      obtain ⟨inner, -, h⟩ := Traced.exists_of_outcome_bind h
      obtain ⟨below, hbelow, h⟩ := Traced.exists_of_outcome_bind h
      exact isIntegral_of_applyPush hes.1 (ih htgt' hes.2 hbelow) h

theorem isIntegral_of_applyAssign (hcoef : ∀ c ∈ coef, Edge.Plain c)
    (htgt : Edge.Plain (tgt, inc)) (hes : ∀ e ∈ es, Edge.Plain e)
    (h : (applyAssign log tgt coef inc ctx es).outcome = .ok n) : n.IsIntegral := by
  induction es generalizing inc ctx n with
  | nil =>
    cases h
    exact EdgeList.isIntegral_empty
  | cons e rest ih =>
    rw [List.forall_mem_cons] at hes
    rw [applyAssign] at h
    cases hweigh : coef.weigh e.1 e.2 inc with
    | error cause =>
      rw [hweigh] at h
      cases h
    | ok inc' =>
      have htgt' := Coefficients.plain_of_weigh hcoef hes.1 htgt hweigh
      rw [hweigh] at h
      dsimp only at h
      split at h
      · obtain ⟨-, -, h⟩ := Traced.exists_of_outcome_bind h
        exact isIntegral_of_applyGather hcoef htgt' hes.2 h
      · obtain ⟨next, -, h⟩ := Traced.exists_of_outcome_bind h
        obtain ⟨-, -, h⟩ := Traced.exists_of_outcome_bind h
        obtain ⟨below, hbelow, h⟩ := Traced.exists_of_outcome_bind h
        have hintegral := ih htgt' hes.2 hbelow
        cases h
        have hcons : EdgeList.single e.1 e.2 ++ below = .ofEdges (e :: below.edges) := by
          conv => lhs; rw [← EdgeList.ofEdges_edges hintegral.balanced]
          rfl
        rw [hcons]
        exact EdgeList.isIntegral_ofEdges (List.forall_mem_cons.2 ⟨hes.1, hintegral.plain⟩)

/-- Plain homomorphisms make paths of integers from paths of integers. -/
theorem isIntegral_of_applyIn (hh : h.IsPlain) (hd : d.IsIntegral)
    (happly : (h.applyIn log ctx d).outcome = .ok n) : n.IsIntegral := by
  induction h generalizing ctx d n with
  | identity =>
    cases happly
    split
    · exact hd
    · exact EdgeList.isIntegral_empty
  | push var val => exact isIntegral_of_applyPush (e := (var, val)) hh hd happly
  | gather tgt coef inc =>
    rw [applyIn, Traced.outcome_bind_of_ok (outcome_edgesOf hd.balanced)] at happly
    exact isIntegral_of_applyGather hh.2 hh.1 hd.plain happly
  | assign tgt coef inc =>
    rw [applyIn, Traced.outcome_bind_of_ok (outcome_edgesOf hd.balanced)] at happly
    exact isIntegral_of_applyAssign hh.2 hh.1 hd.plain happly
  | compose one two ihone ihtwo =>
    obtain ⟨inner, -, happly⟩ := Traced.exists_of_outcome_bind happly
    obtain ⟨middle, hmiddle, happly⟩ := Traced.exists_of_outcome_bind happly
    exact ihone hh.1 (ihtwo hh.2 hd hmiddle) happly
  | stuck => exact hh.elim

/-! ## Contexts make no difference -/

theorem applyPush_congr (hctx : ctx.Alike ctx') {e : Edge} (he : e.Plain) (hd : d.IsIntegral) :
    (applyPush log e.1 e.2 ctx d).outcome = (applyPush log e.1 e.2 ctx' d).outcome := by
  rcases hd.cases with rfl | ⟨top, rest, rfl, htop, -⟩
  · rfl
  · have htext : Braceless (EdgeList.ofEdges [top, e]).text.toList :=
      EdgeList.braceless_text (by simp [htop, he])
    rw [applyPush_cons, applyPush_cons]
    refine Traced.outcome_bind_congr (hctx.afterEdges htext) fun next next' hnext => ?_
    exact Traced.outcome_bind_of_eq (hnext.outcome_trace ..) fun _ => rfl

theorem applyGather_congr (hctx : ctx.Alike ctx') (hcoef : ∀ c ∈ coef, Edge.Plain c)
    (htgt : Edge.Plain (tgt, inc)) (hes : ∀ e ∈ es, Edge.Plain e) :
    (applyGather log tgt coef inc ctx es).outcome =
      (applyGather log tgt coef inc ctx' es).outcome := by
  induction es generalizing inc ctx ctx' with
  | nil => rfl
  | cons e rest ih =>
    rw [List.forall_mem_cons] at hes
    rw [applyGather, applyGather]
    cases hweigh : coef.weigh e.1 e.2 inc with
    | error cause => rfl
    | ok inc' =>
      have htgt' := Coefficients.plain_of_weigh hcoef hes.1 htgt hweigh
      have hpush : (Hom.push e.1 e.2).IsPlain := hes.1
      dsimp only
      refine Traced.outcome_bind_of_eq (hctx.outcome_trace ..) fun _ => ?_
      refine Traced.outcome_bind_congr (hctx.inside hpush) fun inner inner' hinner => ?_
      rw [Traced.outcome_bind, Traced.outcome_bind, ih hinner htgt' hes.2]
      cases hbelow : (applyGather log tgt coef inc' inner' rest).outcome with
      | error cause => rfl
      | ok below =>
        exact applyPush_congr hctx hes.1 (isIntegral_of_applyGather hcoef htgt' hes.2 hbelow)

theorem applyAssign_congr (hctx : ctx.Alike ctx') (hcoef : ∀ c ∈ coef, Edge.Plain c)
    (htgt : Edge.Plain (tgt, inc)) (hes : ∀ e ∈ es, Edge.Plain e) :
    (applyAssign log tgt coef inc ctx es).outcome =
      (applyAssign log tgt coef inc ctx' es).outcome := by
  induction es generalizing inc ctx ctx' with
  | nil => rfl
  | cons e rest ih =>
    rw [List.forall_mem_cons] at hes
    rw [applyAssign, applyAssign]
    cases hweigh : coef.weigh e.1 e.2 inc with
    | error cause => rfl
    | ok inc' =>
      have htgt' := Coefficients.plain_of_weigh hcoef hes.1 htgt hweigh
      dsimp only
      split
      · refine Traced.outcome_bind_of_eq (hctx.outcome_trace ..) fun _ => ?_
        exact applyGather_congr hctx hcoef htgt' hes.2
      · have htext : Braceless (EdgeList.single e.1 e.2).text.toList := by
          rw [EdgeList.single_eq_ofEdges]
          exact EdgeList.braceless_text (by simpa using hes.1)
        refine Traced.outcome_bind_congr (hctx.afterEdges htext) fun next next' hnext => ?_
        refine Traced.outcome_bind_of_eq (hnext.outcome_trace ..) fun _ => ?_
        exact Traced.outcome_bind_of_eq (ih hnext htgt' hes.2) fun _ => rfl

/-- A plain homomorphism has one outcome in all contexts of a sort. -/
theorem applyIn_congr (hh : h.IsPlain) (hctx : ctx.Alike ctx')
    (hd : d.IsIntegral) : (h.applyIn log ctx d).outcome = (h.applyIn log ctx' d).outcome := by
  induction h generalizing ctx ctx' d with
  | identity => rfl
  | push var val => exact applyPush_congr (e := (var, val)) hctx hh hd
  | gather tgt coef inc =>
    rw [applyIn, applyIn, Traced.outcome_bind_of_ok (outcome_edgesOf hd.balanced),
      Traced.outcome_bind_of_ok (outcome_edgesOf hd.balanced)]
    exact applyGather_congr hctx hh.2 hh.1 hd.plain
  | assign tgt coef inc =>
    rw [applyIn, applyIn, Traced.outcome_bind_of_ok (outcome_edgesOf hd.balanced),
      Traced.outcome_bind_of_ok (outcome_edgesOf hd.balanced)]
    exact applyAssign_congr hctx hh.2 hh.1 hd.plain
  | compose one two ihone ihtwo =>
    refine Traced.outcome_bind_congr (hctx.inside hh.1) fun inner inner' hinner => ?_
    rw [Traced.outcome_bind, Traced.outcome_bind, ihtwo hh.2 hinner hd]
    cases hmiddle : (two.applyIn log inner' d).outcome with
    | error cause => rfl
    | ok middle => exact ihone hh.1 hctx (isIntegral_of_applyIn hh.2 hd hmiddle)
  | stuck => exact hh.elim

/-! ## Contexts that cannot be filled -/

variable {e : Text.TemplateError}

theorem applyPush_of_jammed (hctx : ctx.IsJammed e) {var val : Datum}
    (h : (applyPush log var val ctx d).outcome = .ok n) (ctx' : Context) :
    (applyPush log var val ctx' d).outcome = .ok n := by
  rw [applyPush] at h ⊢
  split at h
  · exact h
  · exact h
  · obtain ⟨next, hnext, -⟩ := Traced.exists_of_outcome_bind h
    exact (hctx.outcome_afterEdges_ne _ _ hnext).elim

theorem eq_nil_of_applyGather_jammed (hctx : ctx.IsJammed e)
    (h : (applyGather log tgt coef inc ctx es).outcome = .ok n) :
    es = [] := by
  cases es with
  | nil => rfl
  | cons edge rest =>
    rw [applyGather] at h
    cases hweigh : coef.weigh edge.1 edge.2 inc with
    | error cause =>
      rw [hweigh] at h
      cases h
    | ok inc' =>
      rw [hweigh] at h
      obtain ⟨-, -, h⟩ := Traced.exists_of_outcome_bind h
      obtain ⟨inner, hinner, -⟩ := Traced.exists_of_outcome_bind h
      exact (hctx.outcome_inside_ne _ _ hinner).elim

theorem applyAssign_of_jammed (hctx : ctx.IsJammed e)
    (h : (applyAssign log tgt coef inc ctx es).outcome = .ok n) (ctx' : Context) :
    (applyAssign log tgt coef inc ctx' es).outcome = .ok n := by
  cases es with
  | nil => exact h
  | cons edge rest =>
    rw [applyAssign] at h ⊢
    cases hweigh : coef.weigh edge.1 edge.2 inc with
    | error cause =>
      rw [hweigh] at h
      cases h
    | ok inc' =>
      rw [hweigh] at h
      dsimp only at h ⊢
      split at h
      · rename_i hsame
        obtain ⟨_, htrace, h⟩ := Traced.exists_of_outcome_bind h
        obtain rfl := eq_nil_of_applyGather_jammed hctx h
        cases log with
        | true =>
          rw [hctx.outcome_trace] at htrace
          exact (Traced.ifShown_error_ne htrace).elim
        | false =>
          rw [if_pos hsame]
          exact h
      · obtain ⟨next, hnext, -⟩ := Traced.exists_of_outcome_bind h
        exact (hctx.outcome_afterEdges_ne _ _ hnext).elim

/-- An application succeeds in a context that cannot be filled only where it never fills it. -/
theorem applyIn_of_jammed (hctx : ctx.IsJammed e) (happly : (h.applyIn log ctx d).outcome = .ok n)
    (ctx' : Context) : (h.applyIn log ctx' d).outcome = .ok n := by
  cases h with
  | identity => exact happly
  | push var val => exact applyPush_of_jammed hctx happly ctx'
  | gather tgt coef inc =>
    obtain ⟨es, hes, happly⟩ := Traced.exists_of_outcome_bind happly
    obtain rfl := eq_nil_of_applyGather_jammed hctx happly
    rw [applyIn, Traced.outcome_bind_of_ok hes]
    exact happly
  | assign tgt coef inc =>
    obtain ⟨es, hes, happly⟩ := Traced.exists_of_outcome_bind happly
    rw [applyIn, Traced.outcome_bind_of_ok hes]
    exact applyAssign_of_jammed hctx happly ctx'
  | compose one two =>
    obtain ⟨inner, hinner, -⟩ := Traced.exists_of_outcome_bind happly
    exact (hctx.outcome_inside_ne _ _ hinner).elim
  | stuck one two =>
    obtain ⟨inner, hinner, -⟩ := Traced.exists_of_outcome_bind happly
    exact (hctx.outcome_inside_ne _ _ hinner).elim

/-! ## Composition -/

theorem shown?_eq_some {text : String} :
    h.shown? = some text ↔ h.isDisplayable = true ∧ text = h.text := by
  cases hshown : h.isDisplayable <;> simp [shown?, hshown, eq_comm]

theorem shown?_eq_none : h.shown? = none ↔ h.isDisplayable = false := by
  cases hshown : h.isDisplayable <;> simp [shown?, hshown]

end Hom

end DataDiagram
