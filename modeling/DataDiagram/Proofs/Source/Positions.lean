import DataDiagram.Proofs.Source.Places
import DataDiagram.Proofs.Source.Walk
import DataDiagram.Source.Statement
/-!
# Positions of source trees

Everything that is read from a text stands at one of its places.
-/

namespace DataDiagram

open List

namespace Source

variable {α β : Type} {k : Places} {S : Position → Prop}

namespace Reader

/-- Whatever a reader takes from tokens at some places satisfies `P`. -/
def Reads (k : Places) (r : Reader α) (P : α → Prop) : Prop :=
  ∀ ts a rest, (∀ t ∈ ts, k.token t) → r ts = some (a, rest) → P a

namespace Reads

variable {r : Reader α} {P Q : α → Prop} {R : β → Prop}

theorem pure {a : α} (h : P a) : Reads k (Pure.pure a) P := by
  intro ts b rest hts hrun
  cases hrun
  exact h

theorem fail : Reads k Reader.fail P := fun _ _ _ _ hrun => nomatch hrun

theorem bind {f : α → Reader β} (hr : Reads k r P) (hf : ∀ a, P a → Reads k (f a) R) :
    Reads k (r >>= f) R := by
  intro ts b rest hts hrun
  obtain ⟨⟨a, mid⟩, ha, hb⟩ := Option.bind_eq_some_iff.1 hrun
  exact hf a (hr ts a mid hts ha) mid b rest (fun t ht => hts t ((r.leaves ha).subset ht)) hb

/-- What is read after a part that may be anything. -/
theorem skip {f : α → Reader β} (hf : ∀ a, Reads k (f a) R) : Reads k (r >>= f) R :=
  .bind (P := fun _ => True) (fun _ _ _ _ _ => trivial) fun a _ => hf a

theorem imp (hr : Reads k r P) (h : ∀ a, P a → Q a) : Reads k r Q :=
  fun ts a rest hts hrun => h a (hr ts a rest hts hrun)

theorem map {f : α → β} (hr : Reads k r fun a => R (f a)) : Reads k (f <$> r) R :=
  .bind hr fun _ ha => .pure ha

theorem ite {c : Prop} [Decidable c] {s : Reader α} (hr : c → Reads k r P) (hs : ¬c → Reads k s P) :
    Reads k (if c then r else s) P := by
  split
  · exact hr ‹_›
  · exact hs ‹_›

theorem either {s : Reader α} (hr : Reads k r P) (hs : Reads k s P) :
    Reads k (Reader.either r s) P := by
  intro ts a rest hts hrun
  rcases Option.or_eq_some_iff.1 hrun with h | ⟨-, h⟩
  · exact hr ts a rest hts h
  · exact hs ts a rest hts h

theorem look {f : List Token → Option α} (h : ∀ ts, (∀ t ∈ ts, k.token t) → ∀ a ∈ f ts, P a) :
    Reads k (Reader.look f) P := by
  intro ts a rest hts hrun
  obtain ⟨_, ha, ⟨⟩⟩ := Option.map_eq_some_iff.1 hrun
  exact h ts hts a ha

theorem next : Reads k (Reader.look head?) k.token :=
  .look fun _ hts t ht => hts t (mem_of_mem_head? ht)

theorem here : Reads k Reader.here (Position.Within k) :=
  .look fun _ hts _ hp => by
    obtain ⟨t, ht, rfl⟩ := Option.map_eq_some_iff.1 hp
    exact k.position_of_token (hts t (mem_of_mem_head? ht))

/-- A number that is next can be written. -/
theorem peek : Reads k Reader.peek fun next => ∀ v, next = some (.number v) →
      Static.unwritable? v = none :=
  .look fun _ hts next hnext v hv => by
    cases hnext
    obtain ⟨t, ht, hkind⟩ := Option.map_eq_some_iff.1 hv
    exact k.written (hts t (mem_of_mem_head? ht)) hkind

/-! ### Sequences -/

variable {part : Reader (Option α)} {stop mark : Reader Bool}

theorem manyUpTo (hpart : Reads k part fun a => ∀ b ∈ a, P b) (fuel : Nat) :
    Reads k (Reader.manyUpTo part fuel) fun as => ∀ a ∈ as, P a := by
  induction fuel with
  | zero => exact .pure nofun
  | succ fuel ih =>
    refine .bind hpart fun a ha => ?_
    cases a with
    | none => exact .pure nofun
    | some a =>
      exact .bind ih fun as has => .pure (forall_mem_cons.2 ⟨ha a rfl, has⟩)

theorem many (hpart : Reads k part fun a => ∀ b ∈ a, P b) :
    Reads k (Reader.many part) fun as => ∀ a ∈ as, P a :=
  .skip fun fuel => .manyUpTo hpart fuel

theorem commaSeparatedUpTo (hr : Reads k r P)
    (fuel : Nat) : Reads k (Reader.commaSeparatedUpTo r stop fuel) fun as => ∀ a ∈ as.1, P a := by
  induction fuel with
  | zero => exact .fail
  | succ fuel ih =>
    refine .bind hr fun first hfirst => .skip fun _ => .ite (fun _ => ?_) fun _ => ?_
    · refine .skip fun _ => .ite (fun _ => ?_) fun _ => ?_
      · exact .pure (forall_mem_singleton.2 hfirst)
      · exact .bind ih fun as has => .pure (forall_mem_cons.2 ⟨hfirst, has⟩)
    · exact .pure (forall_mem_singleton.2 hfirst)

theorem commaSeparated (hr : Reads k r P) :
    Reads k (Reader.commaSeparated r stop) fun as => ∀ a ∈ as.1, P a :=
  .skip fun fuel => .commaSeparatedUpTo hr fuel

theorem furtherParts (hr : Reads k r P) :
    Reads k (Reader.furtherParts r stop) fun as => ∀ a ∈ as, P a := by
  refine .skip fun _ => .ite (fun _ => ?_) fun _ => .pure nofun
  refine .skip fun _ => .ite (fun _ => .pure nofun) fun _ => ?_
  exact .bind (.commaSeparated hr) fun as has => .pure has

theorem optionalAfter (hr : Reads k r P) :
    Reads k (Reader.optionalAfter mark r) fun a => ∀ b ∈ a, P b := by
  refine .skip fun _ => .ite (fun _ => ?_) fun _ => .pure nofun
  exact .bind hr fun a ha => .pure (by simpa using ha)

end Reads

end Reader

open Reader (Reads)

/-! ## Expressions -/

/-- An expression whose parts all have their place among some, and whose constants can be
written. -/
structure Expr.Within (S : Position → Prop) (e : Expr) : Prop where
  placed : e.Placed fun q => ∃ p ∈ q, p.Within S
  written : e.collect Static.unwritableConstant = []

/-- Readers of expressions that keep to some places. -/
structure Nested.Within (k : Places) (n : Nested) : Prop where
  expression : Reads k n.expression (Expr.Within k)
  disjunction : Reads k n.disjunction (Expr.Within k)
  inversion : Reads k n.inversion (Expr.Within k)
  bitwiseOr : Reads k n.bitwiseOr (Expr.Within k)
  factor : Reads k n.factor (Expr.Within k)

namespace Expr

variable {n : Nested} {p : Position} {e : Expr} {op : Option TokenKind → Option BinaryOp}
  {operand : Reader Expr} {start : Position}

theorem within_iff (hp : e.pos? = some p) (hwritten : Static.unwritableConstant e = []) :
    e.Within S ↔ p.Within S ∧ ∀ d ∈ e.children, d.Within S := by
  have hcollect : e.collect Static.unwritableConstant = [] ↔
      ∀ d ∈ e.children, d.collect Static.unwritableConstant = [] := by
    rw [collect_eq, hwritten, nil_append, flatMap_eq_nil_iff]
  have hplaced : (e.Placed fun q => ∃ p ∈ q, p.Within S) ↔
      p.Within S ∧ ∀ d ∈ e.children, d.Placed fun q => ∃ p ∈ q, p.Within S := by
    rw [placed_iff, hp]
    simp
  constructor
  · intro h
    exact ⟨(hplaced.1 h.placed).1, fun d hd =>
      ⟨(hplaced.1 h.placed).2 d hd, hcollect.1 h.written d hd⟩⟩
  · intro h
    exact ⟨hplaced.2 ⟨h.1, fun d hd => (h.2 d hd).placed⟩,
      hcollect.2 fun d hd => (h.2 d hd).written⟩

theorem within_constant {v : Datum} (hp : p.Within S)
    (hv : Static.unwritable? v = none) : (constant (some p) v).Within S :=
  (within_iff rfl (by rw [Static.unwritableConstant, hv]; rfl)).2 ⟨hp, nofun⟩

theorem within_name {id : String} {u : Usage} (hp : p.Within S) :
    (name p id u).Within S := (within_iff rfl rfl).2 ⟨hp, nofun⟩

/-! ### Targets -/

/-- An expression like another one, up to what it is written for. -/
theorem Within.congr {d : Expr} (he : e.Within S) (hpe : e.pos? = some p)
    (hpd : d.pos? = some p) (hchildren : d.children = e.children)
    (hwe : Static.unwritableConstant e = []) (hwd : Static.unwritableConstant d = []) :
    d.Within S := by
  have h := (within_iff hpe hwe).1 he
  exact (within_iff hpd hwd).2 ⟨h.1, hchildren ▸ h.2⟩

theorem within_asTarget? (usage : Usage) :
    (∀ e : Expr, e.Within S → ∀ t, e.asTarget? usage = some t → t.Within S) ∧
    (∀ es : List Expr, (∀ e ∈ es, e.Within S) →
      ∀ ts, asTargets? usage es = some ts → ∀ t ∈ ts, t.Within S) := by
  apply asTarget?.mutual_induct usage
  case case1 | case2 | case3 =>
    intros
    rename_i he t ht
    cases ht
    exact he.congr rfl rfl rfl rfl rfl
  case case4 | case5 =>
    intro p items _ ih he t ht
    obtain ⟨hp, hitems⟩ := (within_iff rfl rfl).1 he
    obtain ⟨ts, hts, hpure⟩ := Option.bind_eq_some_iff.1 ht
    cases hpure
    exact (within_iff rfl rfl).2 ⟨hp, ih hitems ts hts⟩
  case case6 =>
    intro p v _ husage ih he t ht
    obtain ⟨hp, hv⟩ := (within_iff rfl rfl).1 he
    rw [asTarget?, if_pos husage] at ht
    obtain ⟨u, hu, hpure⟩ := Option.bind_eq_some_iff.1 ht
    cases hpure
    exact (within_iff rfl rfl).2 ⟨hp, by simpa [children] using ih (hv v (by simp [children])) u hu⟩
  case case7 =>
    intro p v _ husage _ t ht
    rw [asTarget?, if_neg husage] at ht
    cases ht
  case case8 =>
    intro e hname hfield hsubscript htuple hlist hstarred _ t ht
    rw [asTarget?.eq_7 usage e hname hfield hsubscript htuple hlist hstarred] at ht
    cases ht
  case case9 =>
    intro _ ts hts
    cases hts
    exact forall_mem_nil _
  case case10 =>
    intro e rest ihe ihrest hes ts hts
    obtain ⟨t, ht, hts⟩ := Option.bind_eq_some_iff.1 hts
    obtain ⟨more, hmore, hpure⟩ := Option.bind_eq_some_iff.1 hts
    cases hpure
    rw [forall_mem_cons] at hes ⊢
    exact ⟨ihe hes.1 t ht, ihrest hes.2 more hmore⟩

theorem within_asSingleTarget? {t : Expr} (he : e.Within S) (h : e.asSingleTarget? = some t) :
    t.Within S := by
  unfold asSingleTarget? at h
  split at h
  all_goals cases h
  all_goals exact he.congr rfl rfl rfl rfl rfl

/-! ### Operators -/

theorem reads_leftOperands (hoperand : Reads k operand (Within k)) (hstart : start.Within k)
    (fuel : Nat) (he : e.Within k) : Reads k (leftOperands op operand start fuel e) (Within k) := by
  induction fuel generalizing e with
  | zero => exact .pure he
  | succ fuel ih =>
    refine .skip fun next => ?_
    split
    · exact .pure he
    · refine .skip fun _ => .bind hoperand fun right hright => ih ?_
      exact (within_iff rfl rfl).2 ⟨hstart, by simp [children, he, hright]⟩

theorem reads_leftGrouped
    (hoperand : Reads k operand (Within k)) : Reads k (leftGrouped op operand) (Within k) :=
  .bind .here fun _ hstart => .bind hoperand fun _ hfirst => .skip fun fuel =>
    reads_leftOperands hoperand hstart fuel hfirst

/-! ### Parts of brackets -/

theorem reads_namedExpression (hn : n.Within k) : Reads k (namedExpression n) (Within k) := by
  refine .skip fun _ => .ite (fun _ => ?_) fun _ => hn.expression
  refine .bind .here fun start hstart => .skip fun id => .skip fun _ => ?_
  refine .bind hn.expression fun value hvalue => .pure ((within_iff rfl rfl).2 ⟨hstart, ?_⟩)
  simp [children, hvalue, within_name hstart]

theorem reads_starredPart {inner : Reader Expr} (hinner : Reads k inner (Within k)) :
    Reads k (starredPart inner) (Within k) := by
  refine .bind .here fun start hstart => .skip fun _ => .bind hinner fun value hvalue => ?_
  exact .pure ((within_iff rfl rfl).2 ⟨hstart, by simp [children, hvalue]⟩)

theorem reads_starExpression (hn : n.Within k) : Reads k (starExpression n) (Within k) :=
  .skip fun _ => .ite (fun _ => reads_starredPart hn.bitwiseOr) fun _ => hn.expression

theorem reads_starNamed (hn : n.Within k) : Reads k (starNamed n) (Within k) :=
  .skip fun _ => .ite (fun _ => reads_starredPart hn.bitwiseOr) fun _ =>
    reads_namedExpression hn

theorem reads_tupled {part : Reader Expr} (hpart : Reads k part (Within k)) :
    Reads k (tupled part) (Within k) := by
  refine .bind .here fun start hstart => .bind (.commaSeparated hpart) fun parts hparts => ?_
  obtain ⟨parts, trailing⟩ := parts
  simp only
  split
  · exact .pure (hparts _ (by simp))
  · exact .pure ((within_iff rfl rfl).2 ⟨hstart, hparts⟩)

theorem reads_starTarget (hn : n.Within k) : Reads k (starTarget n) (Within k) := by
  refine .skip fun _ => ?_
  dsimp only
  refine .ite (fun _ => .bind (reads_starredPart hn.bitwiseOr) ?_) fun _ => .bind hn.bitwiseOr ?_
  all_goals
    intro e he
    split
    · rename_i t ht
      exact .pure ((within_asTarget? .store).1 e he t ht)
    · exact .fail

theorem reads_starTargets (hn : n.Within k) : Reads k (starTargets n) (Within k) := by
  refine .bind .here fun start hstart =>
    .bind (.commaSeparated (reads_starTarget hn)) fun parts hparts => ?_
  obtain ⟨parts, trailing⟩ := parts
  simp only
  split
  · exact .pure (hparts _ (by simp))
  · exact .pure ((within_iff rfl rfl).2 ⟨hstart, hparts⟩)

theorem reads_connected {op : BoolOp} {w : Keyword}
    (hoperand : Reads k operand (Within k)) : Reads k (connected op w operand) (Within k) := by
  refine .bind .here fun start hstart => .bind hoperand fun first hfirst => ?_
  refine .bind (.many (.optionalAfter hoperand)) fun more hmore => .pure ?_
  split
  · exact hfirst
  · exact (within_iff rfl rfl).2 ⟨hstart, forall_mem_cons.2 ⟨hfirst, hmore⟩⟩

def clauseParts (clause : Bool × Expr × Expr × List Expr) : List Expr :=
  clause.2.1 :: clause.2.2.1 :: clause.2.2.2

theorem reads_clauses (hn : n.Within k) :
    Reads k (clauses n) fun clauses =>
    ∀ clause ∈ clauses, ∀ e ∈ clauseParts clause, e.Within k := by
  refine .many ?_
  refine .skip fun _ => .skip fun _ => .ite (fun _ => ?_) fun _ => .pure nofun
  refine .skip fun waits => .skip fun _ =>
    .bind (reads_starTargets hn) fun target htarget => .skip fun _ =>
    .bind hn.disjunction fun iter hiter => .bind (.many (.optionalAfter hn.disjunction))
    fun conditions hconditions => .pure ?_
  simpa [clauseParts] using ⟨htarget, hiter, hconditions⟩

theorem reads_comprehensionRest (hn : n.Within k) (hstart : start.Within k)
    {kind : ComprehensionKind} {made : List Expr} (hmade : ∀ e ∈ made, e.Within k)
    {close : Symbol} :
    Reads k (comprehensionRest n start kind made close) (Within k) := by
  refine .bind (reads_clauses hn) fun clauses hclauses => .skip fun _ => .pure ?_
  refine (within_iff rfl rfl).2 ⟨hstart, forall_mem_append.2 ⟨hmade, ?_⟩⟩
  exact forall_mem_flatMap.2 hclauses

theorem reads_yieldExpression (hn : n.Within k) : Reads k (yieldExpression n) (Within k) := by
  refine .bind .here fun start hstart => .skip fun _ => .skip fun _ => ?_
  refine .ite (fun _ => ?_) fun _ => .skip fun _ => .ite (fun _ => ?_) fun _ => ?_
  · exact .bind hn.expression fun e he =>
      .pure ((within_iff rfl rfl).2 ⟨hstart, by simp [children, he]⟩)
  · exact .bind (reads_tupled (reads_starExpression hn)) fun e he =>
      .pure ((within_iff rfl rfl).2 ⟨hstart, by simp [children, he]⟩)
  · exact .pure ((within_iff rfl rfl).2 ⟨hstart, by simp [children]⟩)

theorem reads_itemsRest (hn : n.Within k) {make : List Expr → Expr} {first : Expr} {close : Symbol}
    (hmake : ∀ es, (∀ e ∈ es, e.Within k) → (make es).Within k) (hfirst : first.Within k) :
    Reads k (itemsRest n make first close) (Within k) :=
  .bind (.furtherParts (reads_starNamed hn)) fun _ hmore => .skip fun _ =>
    .pure (hmake _ (forall_mem_cons.2 ⟨hfirst, hmore⟩))

theorem reads_parenthesised (hn : n.Within k) : Reads k (parenthesised n) (Within k) := by
  refine .bind .here fun start hstart => .skip fun _ => .skip fun _ => ?_
  refine .ite (fun _ => .pure ((within_iff rfl rfl).2 ⟨hstart, nofun⟩)) fun _ => ?_
  refine .skip fun _ => .ite (fun _ => ?_) fun _ => ?_
  · exact .bind (reads_yieldExpression hn) fun e he => .skip fun _ => .pure he
  refine .bind (reads_starNamed hn) fun first hfirst => .skip fun _ => ?_
  refine .ite (fun _ => reads_comprehensionRest hn hstart (by simpa using hfirst)) fun _ => ?_
  refine .skip fun _ => .ite (fun _ => ?_) fun _ => ?_
  · exact reads_itemsRest hn (fun _ hes => (within_iff rfl rfl).2 ⟨hstart, hes⟩) hfirst
  · exact .skip fun _ => .ite (fun _ => .fail) fun _ => .pure hfirst

theorem reads_bracketed (hn : n.Within k) : Reads k (bracketed n) (Within k) := by
  refine .bind .here fun start hstart => .skip fun _ => .skip fun _ => ?_
  refine .ite (fun _ => .pure ((within_iff rfl rfl).2 ⟨hstart, nofun⟩)) fun _ => ?_
  refine .bind (reads_starNamed hn) fun first hfirst => .skip fun _ => ?_
  refine .ite (fun _ => reads_comprehensionRest hn hstart (by simpa using hfirst)) fun _ => ?_
  exact reads_itemsRest hn (fun _ hes => (within_iff rfl rfl).2 ⟨hstart, hes⟩) hfirst

/-- The expressions of an entry of a dictionary. -/
def entryParts (entry : Option Expr × Expr) : List Expr := entry.1.toList ++ [entry.2]

theorem reads_dictEntry (hn : n.Within k) :
    Reads k (dictEntry n) fun entry => ∀ e ∈ entryParts entry, e.Within k := by
  refine .skip fun _ => .ite (fun _ => ?_) fun _ => ?_
  · exact .bind hn.bitwiseOr fun e he => .pure (by simpa [entryParts] using he)
  · refine .bind hn.expression fun key hkey => .skip fun _ => ?_
    exact .bind hn.expression fun value hvalue => .pure (by simpa [entryParts] using ⟨hkey, hvalue⟩)

theorem reads_dictRest (hn : n.Within k) (hstart : start.Within k)
    {first : Option Expr × Expr} (hfirst : ∀ e ∈ entryParts first, e.Within k) :
    Reads k (dictRest n start first) (Within k) := by
  refine .bind (.furtherParts (reads_dictEntry hn)) fun more hmore => ?_
  have hentries : ∀ entry ∈ first :: more, ∀ e ∈ entryParts entry, e.Within k :=
    forall_mem_cons.2 ⟨hfirst, hmore⟩
  refine .skip fun _ => .pure ((within_iff rfl rfl).2 ⟨hstart, fun e he => ?_⟩)
  simp only [children, mem_append, mem_filterMap, mem_map, id_eq] at he
  obtain ⟨_, ⟨entry, hentry, rfl⟩, hkey⟩ | ⟨entry, hentry, rfl⟩ := he
  · exact hentries entry hentry e (by simp [entryParts, hkey])
  · exact hentries entry hentry _ (by simp [entryParts])

theorem reads_braced (hn : n.Within k) : Reads k (braced n) (Within k) := by
  refine .bind .here fun start hstart => .skip fun _ => .skip fun _ => ?_
  refine .ite (fun _ => .pure ((within_iff rfl rfl).2 ⟨hstart, nofun⟩)) fun _ => ?_
  refine .skip fun _ => .ite (fun _ => ?_) fun _ => ?_
  · exact .bind (reads_dictEntry hn) fun entry hentry => reads_dictRest hn hstart hentry
  refine .skip fun _ => .skip fun _ => .ite (fun _ => ?_) fun _ => ?_
  · refine .bind (reads_starNamed hn) fun first hfirst => .skip fun _ => ?_
    exact .ite (fun _ => reads_comprehensionRest hn hstart (by simpa using hfirst)) fun _ =>
      reads_itemsRest hn (fun _ hes => (within_iff rfl rfl).2 ⟨hstart, hes⟩) hfirst
  refine .bind hn.expression fun first hfirst => .skip fun _ => ?_
  refine .ite (fun _ => ?_) fun _ => .skip fun _ => ?_
  · refine .bind hn.expression fun value hvalue => .skip fun _ => ?_
    refine .ite (fun _ => reads_comprehensionRest hn hstart (by simpa using ⟨hfirst, hvalue⟩))
      fun _ => ?_
    exact reads_dictRest hn hstart (by simpa [entryParts] using ⟨hfirst, hvalue⟩)
  · exact .ite (fun _ => reads_comprehensionRest hn hstart (by simpa using hfirst)) fun _ =>
      reads_itemsRest hn (fun _ hes => (within_iff rfl rfl).2 ⟨hstart, hes⟩) hfirst

/-! ### Formatted strings -/

/-- The tokens of a field, whose brace stands where `brace` says, stand at some places. -/
def FieldTokens (k : Places) (brace : Nat → Position) (f : Nat × List Char) : Prop :=
  ∀ us, tokensFrom (brace f.1) ('(' :: f.2 ++ [')']) = some us → ∀ u ∈ us, k.token u

theorem within_ofText (hn : n.Within k) {brace : Nat → Position} {left : Nat} {text : List Char}
    (htokens : FieldTokens k brace (left, text)) (h : ofText n (brace left) text = some e) :
    e.Within k := by
  unfold ofText at h
  obtain ⟨ts, hts, h⟩ := Option.bind_eq_some_iff.1 (Option.ite_none_left_eq_some.1 h).2
  obtain ⟨⟨d, rest⟩, hread, h⟩ := Option.bind_eq_some_iff.1 h
  have hd := reads_tupled (reads_starExpression hn) ts d rest (htokens ts hts) hread
  simp only at h
  split at h
  · cases h
    exact hd
  · cases h

theorem Within.constant {p : Option Position} {v : Datum} {s : String}
    (h : (constant p v).Within S) : (constant p (.str s)).Within S := by
  refine ⟨placed_iff.2 ⟨h.placed.pos, nofun⟩, ?_⟩
  rw [collect_eq, Static.unwritableConstant, Static.unwritable?]
  rfl

theorem within_mergeTexts {es : List Expr} (hes : ∀ e ∈ es, e.Within S) :
    ∀ e ∈ mergeTexts es, e.Within S := by
  fun_induction mergeTexts es with
  | case1 => exact hes
  | case2 p s rest =>
    rename_i hmerged ih
    rw [forall_mem_cons] at hes
    have hmore := ih hes.2
    rw [hmerged, forall_mem_cons] at hmore
    exact forall_mem_cons.2 ⟨hes.1.constant, hmore.2⟩
  | case3 p s rest =>
    rename_i ih
    exact ih (forall_mem_cons.1 hes).2
  | case4 p s rest =>
    rename_i ih
    rw [forall_mem_cons] at hes ⊢
    exact ⟨hes.1, ih hes.2⟩
  | case5 e rest _ ih =>
    rw [forall_mem_cons] at hes ⊢
    exact ⟨hes.1, ih hes.2⟩

theorem within_ofPieces_all (hn : n.Within k) (hstart : start.Within k) (brace : Nat → Position)
    (raw : Bool) : (∀ piece : Piece, (∀ f ∈ piece.fields, FieldTokens k brace f) →
      ∀ es, ofPiece n start brace raw piece = some es → ∀ e ∈ es, e.Within k) ∧
    (∀ layout, (∀ f ∈ Piece.fieldsOfLayout layout, FieldTokens k brace f) →
      ∀ l, ofLayout n start brace raw layout = some l → ∀ e ∈ l, e.Within k) ∧
    (∀ pieces, (∀ f ∈ Piece.fieldsOfAll pieces, FieldTokens k brace f) →
      ∀ es, ofPieces n start brace raw pieces = some es → ∀ e ∈ es, e.Within k) := by
  apply ofPiece.mutual_induct
  case case1 =>
    intro text _ es hes
    obtain ⟨value, -, hpure⟩ := Option.bind_eq_some_iff.1 hes
    cases hpure
    exact forall_mem_singleton.2 (within_constant hstart rfl)
  case case2 =>
    intro left expr shown conversion layout ih hfields es hes
    rw [Piece.fields, forall_mem_cons] at hfields
    obtain ⟨e, he, h⟩ := Option.bind_eq_some_iff.1 hes
    obtain ⟨l, hl, hpure⟩ := Option.bind_eq_some_iff.1 h
    cases hpure
    refine forall_mem_append.2 ⟨?_, forall_mem_singleton.2 ?_⟩
    · split
      · exact forall_mem_singleton.2 (within_constant hstart rfl)
      · exact forall_mem_nil _
    · refine (within_iff rfl rfl).2 ⟨hstart, forall_mem_cons.2 ⟨within_ofText hn hfields.1 he, ?_⟩⟩
      exact fun d hd => ih hfields.2 l hl d (Option.mem_toList.1 hd)
  case case3 =>
    intro _ l hl e he
    cases hl
    cases he
  case case4 =>
    intro pieces ih hfields l hl
    obtain ⟨es, hes, hpure⟩ := Option.bind_eq_some_iff.1 hl
    cases hpure
    rintro e ⟨⟩
    exact (within_iff rfl rfl).2 ⟨hstart, within_mergeTexts (ih hfields es hes)⟩
  case case5 =>
    intro _ es hes
    cases hes
    exact forall_mem_nil _
  case case6 =>
    intro p rest ihp ihrest hfields es hes
    rw [Piece.fieldsOfAll, forall_mem_append] at hfields
    obtain ⟨first, hfirst, h⟩ := Option.bind_eq_some_iff.1 hes
    obtain ⟨more, hmore, hpure⟩ := Option.bind_eq_some_iff.1 h
    cases hpure
    exact forall_mem_append.2 ⟨ihp hfields.1 first hfirst, ihrest hfields.2 more hmore⟩

theorem exists_of_mapM_eq_some {f : α → Option β} {as : List α} {bs : List β}
    (h : as.mapM f = some bs) : ∀ b ∈ bs, ∃ a ∈ as, f a = some b := by
  induction as generalizing bs with
  | nil =>
    cases h
    exact nofun
  | cons a as ih =>
    rw [mapM_cons] at h
    obtain ⟨b, hb, h⟩ := Option.bind_eq_some_iff.1 h
    obtain ⟨more, hmore, hpure⟩ := Option.bind_eq_some_iff.1 h
    cases hpure
    refine forall_mem_cons.2 ⟨⟨a, mem_cons_self .., hb⟩, fun c hc => ?_⟩
    obtain ⟨d, hd, hfd⟩ := ih hmore c hc
    exact ⟨d, mem_cons_of_mem _ hd, hfd⟩

theorem reads_strings (hn : n.Within k) : Reads k (strings n) (Within k) := by
  refine .bind .here fun start hstart => ?_
  refine .bind (.many (P := k.token) (.skip fun next => ?_)) fun parts hparts => ?_
  · have htake : Reads k (do let t ← Reader.look head?; Reader.advance; return some t) fun a =>
        ∀ t ∈ a, k.token t :=
      .bind .next fun t ht => .skip fun _ => .pure (by simpa using ht)
    split
    · exact htake
    · exact htake
    · exact htake
    · exact .pure nofun
  dsimp only
  refine .ite (fun _ => .ite (fun _ => .pure (within_constant hstart rfl)) fun _ => .fail) fun _ =>
    ?_
  refine .ite (fun _ => ?_) fun _ => .pure (within_constant hstart rfl)
  split
  · rename_i pieces hpieces
    refine .pure ((within_iff rfl rfl).2 ⟨hstart, within_mergeTexts (forall_mem_flatten.2 ?_)⟩)
    intro es hes
    obtain ⟨t, ht, h⟩ := exists_of_mapM_eq_some hpieces es hes
    split at h
    · rename_i raw lead content hkind
      obtain ⟨ps, hps, h⟩ := Option.bind_eq_some_iff.1 h
      exact (within_ofPieces_all hn hstart _ raw).2.2 ps (fun f hf us hus =>
        k.field (hparts t ht) hkind hps hf hus) es h
    · cases h
      exact forall_mem_singleton.2 (within_constant hstart rfl)
    · cases h
      exact nofun
  · exact .fail

theorem reads_atom (hn : n.Within k) : Reads k (atom n) (Within k) := by
  refine .bind .here fun start hstart => .bind .peek fun next hnext => ?_
  split
  · exact .skip fun _ => .pure (within_name hstart)
  · rename_i v
    exact .skip fun _ => .pure (within_constant hstart (hnext v rfl))
  · exact .skip fun _ => .pure (within_constant hstart rfl)
  · exact .skip fun _ => .pure (within_constant hstart rfl)
  · exact .skip fun _ => .pure (within_constant hstart rfl)
  · exact .skip fun _ => .pure (within_constant hstart rfl)
  · exact reads_parenthesised hn
  · exact reads_bracketed hn
  · exact reads_braced hn
  · exact reads_strings hn
  · exact reads_strings hn
  · exact reads_strings hn
  · exact .fail

/-! ### Calls, fields, elements -/

def Argument.value : Argument → Expr
  | .positional e => e
  | .keyword _ _ e => e

/-- An argument that stands at some places. -/
structure Argument.Within (S : Position → Prop) (a : Argument) : Prop where
  value : a.value.Within S
  pos : ∀ p id e, a = .keyword p id e → p.Within S

theorem Argument.within_positional (he : e.Within S) : (Argument.positional e).Within S :=
  ⟨he, nofun⟩

theorem Argument.within_keyword {id : Option String} (hp : p.Within S)
    (he : e.Within S) : (Argument.keyword p id e).Within S := by
  refine ⟨he, fun q _ _ h => ?_⟩
  cases h
  exact hp

theorem reads_argument (hn : n.Within k) : Reads k (argument n) (Argument.Within k) := by
  refine .bind .here fun start hstart => .skip fun _ => .ite (fun _ => ?_) fun _ => ?_
  · exact .bind hn.expression fun e he => .pure (Argument.within_keyword hstart he)
  refine .skip fun _ => .ite (fun _ => ?_) fun _ => ?_
  · exact .bind (reads_starredPart hn.expression) fun e he => .pure (Argument.within_positional he)
  refine .skip fun _ => .skip fun _ => ?_
  split
  · exact .skip fun _ => .skip fun _ => .bind hn.expression fun e he =>
      .pure (Argument.within_keyword hstart he)
  · exact .bind (reads_namedExpression hn) fun e he => .pure (Argument.within_positional he)

theorem reads_argumentsAfter (hn : n.Within k) {first : Argument} (hfirst : first.Within k) :
    Reads k (argumentsAfter n first) fun args => ∀ a ∈ args, a.Within k := by
  refine .bind (.furtherParts (reads_argument hn)) fun more hmore => ?_
  refine .skip fun _ => .ite (fun _ => .pure ?_) fun _ => .fail
  exact forall_mem_cons.2 ⟨hfirst, hmore⟩

theorem reads_arguments (hn : n.Within k) : Reads k (arguments n) fun args =>
      ∀ a ∈ args, a.Within k :=
  .skip fun _ => .ite (fun _ => .pure nofun) fun _ =>
    .bind (reads_argument hn) fun _ hfirst => reads_argumentsAfter hn hfirst

theorem within_positionals {args : List Argument} (hargs : ∀ a ∈ args, a.Within S) :
    ∀ e ∈ positionals args, e.Within S := by
  intro e he
  obtain ⟨a, ha, hae⟩ := mem_filterMap.1 he
  split at hae
  · cases hae
    exact (hargs _ ha).value
  · cases hae

theorem reads_callArguments (hn : n.Within k) :
    Reads k (callArguments n) fun args => ∀ a ∈ args, a.Within k := by
  refine .bind .here fun start hstart => .skip fun _ => .skip fun _ => ?_
  refine .ite (fun _ => .pure nofun) fun _ => .bind (reads_argument hn) fun first hfirst => ?_
  refine .skip fun _ => .ite (fun _ => ?_) fun _ => reads_argumentsAfter hn hfirst
  have hmade : ∀ e ∈ positionals [first], e.Within k :=
    within_positionals (forall_mem_singleton.2 hfirst)
  refine .bind (reads_comprehensionRest hn hstart hmade) fun e he => .pure ?_
  exact forall_mem_singleton.2 (Argument.within_positional he)

theorem reads_sliceStep (hn : n.Within k) : Reads k (sliceStep n) fun step =>
      ∀ e ∈ step, e.Within k :=
  .skip fun _ => .ite (fun _ => .optionalAfter hn.expression) fun _ =>
    .pure nofun

theorem reads_sliceRest (hn : n.Within k) (hstart : start.Within k)
    {lower : Option Expr} (hlower : ∀ e ∈ lower, e.Within k) :
    Reads k (sliceRest n start lower) (Within k) := by
  refine .skip fun _ => .bind (.optionalAfter hn.expression)
    fun upper hupper => .bind (reads_sliceStep hn) fun step hstep =>
      .pure ((within_iff rfl rfl).2 ⟨hstart, ?_⟩)
  simpa [children, or_imp, forall_and] using ⟨hlower, hupper, hstep⟩

theorem reads_sliceItem (hn : n.Within k) : Reads k (sliceItem n) (Within k) := by
  refine .bind .here fun start hstart => ?_
  refine .skip fun _ => .ite (fun _ => reads_sliceRest hn hstart nofun) fun _ => ?_
  refine .skip fun _ => .ite (fun _ => reads_starredPart hn.expression) fun _ => ?_
  refine .skip fun _ => .ite (fun _ => reads_namedExpression hn) fun _ => ?_
  refine .bind hn.expression fun lower hlower => .skip fun _ => ?_
  exact .ite (fun _ => reads_sliceRest hn hstart (by simpa using hlower)) fun _ => .pure hlower

theorem reads_slices (hn : n.Within k) : Reads k (slices n) (Within k) := by
  refine .bind .here fun start hstart =>
    .bind (.commaSeparated (reads_sliceItem hn)) fun parts hparts => ?_
  obtain ⟨parts, trailing⟩ := parts
  simp only
  split
  · refine .pure ?_
    split
    · exact (within_iff rfl rfl).2 ⟨hstart, hparts⟩
    · exact hparts _ (by simp)
  · exact .pure ((within_iff rfl rfl).2 ⟨hstart, hparts⟩)

theorem reads_trailers (hn : n.Within k) (hstart : start.Within k) (fuel : Nat) (he : e.Within k) :
    Reads k (trailers n start fuel e) (Within k) := by
  induction fuel generalizing e with
  | zero => exact .pure he
  | succ fuel ih =>
    refine .skip fun next => ?_
    split
    · refine .skip fun _ => .skip fun attr => ih ?_
      exact (within_iff rfl rfl).2 ⟨hstart, by simpa [children] using he⟩
    · refine .bind (reads_callArguments hn) fun args hargs => ih ?_
      refine (within_iff rfl rfl).2 ⟨hstart, ?_⟩
      refine forall_mem_append.2 ⟨forall_mem_cons.2 ⟨he, within_positionals hargs⟩, ?_⟩
      refine forall_mem_map.2 fun named hnamed => ?_
      obtain ⟨a, ha, haw⟩ := mem_filterMap.1 hnamed
      split at haw
      · cases haw
        exact (hargs _ ha).value
      · cases haw
    · refine .skip fun _ => .bind (reads_slices hn) fun index hindex => ?_
      refine .skip fun _ => ih ?_
      exact (within_iff rfl rfl).2 ⟨hstart, by simpa [children] using ⟨he, hindex⟩⟩
    · exact .pure he

theorem reads_primary (hn : n.Within k) : Reads k (primary n) (Within k) :=
  .bind .here fun _ hstart => .bind (reads_atom hn) fun _ he => .skip fun fuel =>
    reads_trailers hn hstart fuel he

theorem reads_awaitPrimary (hn : n.Within k) : Reads k (awaitPrimary n) (Within k) := by
  refine .bind .here fun start hstart => .skip fun _ => .ite (fun _ => ?_) fun _ => ?_
  · exact .bind (reads_primary hn) fun e he =>
      .pure ((within_iff rfl rfl).2 ⟨hstart, by simpa [children] using he⟩)
  · exact reads_primary hn

theorem reads_factor (hn : n.Within k) : Reads k (factor n) (Within k) := by
  refine .bind .here fun start hstart => .skip fun next => ?_
  split
  · exact .skip fun _ => .bind hn.factor fun e he =>
      .pure ((within_iff rfl rfl).2 ⟨hstart, by simpa [children] using he⟩)
  · refine .bind (reads_awaitPrimary hn) fun base hbase => .skip fun _ => ?_
    refine .ite (fun _ => .bind hn.factor fun e he => .pure ?_) fun _ => .pure hbase
    exact (within_iff rfl rfl).2 ⟨hstart, by simpa [children] using ⟨hbase, he⟩⟩

theorem reads_bitwiseOr (hn : n.Within k) : Reads k (bitwiseOr n) (Within k) :=
  reads_leftGrouped (reads_leftGrouped (reads_leftGrouped (reads_leftGrouped (reads_leftGrouped
    (reads_leftGrouped (reads_factor hn))))))

/-! ### Comparisons and conditions -/

theorem reads_comparison (hn : n.Within k) : Reads k (comparison n) (Within k) := by
  refine .bind .here fun start hstart => .bind (reads_bitwiseOr hn) fun first hfirst => ?_
  refine .bind (.many (P := fun a => a.2.Within k) ?_) fun more hmore => .pure ?_
  · refine .skip fun op => ?_
    split
    · exact .bind (reads_bitwiseOr hn) fun e he => .pure (by simpa using he)
    · exact .pure nofun
  · split
    · exact hfirst
    · refine (within_iff rfl rfl).2 ⟨hstart, forall_mem_cons.2 ⟨hfirst, ?_⟩⟩
      exact forall_mem_map.2 hmore

theorem reads_inversion (hn : n.Within k) : Reads k (inversion n) (Within k) := by
  refine .bind .here fun start hstart => .skip fun _ => .ite (fun _ => ?_) fun _ => ?_
  · exact .bind hn.inversion fun e he =>
      .pure ((within_iff rfl rfl).2 ⟨hstart, by simpa [children] using he⟩)
  · exact reads_comparison hn

theorem reads_disjunction (hn : n.Within k) : Reads k (disjunction n) (Within k) :=
  reads_connected (reads_connected (reads_inversion hn))

/-! ### Functions without a name -/

end Expr

/-- A parameter that stands at some places. -/
structure Param.Within (S : Position → Prop) (p : Param) : Prop where
  pos : p.pos.Within S
  type : ∀ e ∈ p.type, e.Within S

/-- Parameters that stand at some places. -/
structure Params.Within (S : Position → Prop) (ps : Params) : Prop where
  all : ∀ p ∈ ps.all, p.Within S
  keywordDefaults : ∀ d ∈ ps.keywordDefaults, ∀ e ∈ d, e.Within S
  defaults : ∀ e ∈ ps.defaults, e.Within S

namespace Expr

/-- A part of a list of parameters that stands at some places. -/
def ParamItem.Within (S : Position → Prop) : ParamItem → Prop
  | .slash => True
  | .star param => ∀ p ∈ param, p.Within S
  | .doubleStar p => p.Within S
  | .plain p default => p.Within S ∧ ∀ e ∈ default, e.Within S

variable {starType : Reader (Option Expr)} {type : Reader (Option Expr)} {items : List ParamItem}
  {last : Option Param}

theorem reads_paramItem (hn : n.Within k) (htype : Reads k type fun a => ∀ e ∈ a, e.Within k)
    (hstarType : Reads k starType fun a => ∀ e ∈ a, e.Within k) :
    Reads k (paramItem n type starType) (ParamItem.Within k) := by
  refine .skip fun _ => .ite (fun _ => .pure trivial) fun _ => ?_
  refine .skip fun _ => .ite (fun _ => ?_) fun _ => ?_
  · refine .skip fun _ => .ite (fun _ => .pure nofun) fun _ => ?_
    refine .bind .here fun start hstart => .skip fun id => .bind hstarType fun t ht => .pure ?_
    rintro p ⟨⟩
    exact ⟨hstart, ht⟩
  refine .skip fun _ => .ite (fun _ => ?_) fun _ => ?_
  · exact .bind .here fun start hstart => .skip fun id => .bind htype fun t ht =>
      .pure ⟨hstart, ht⟩
  refine .bind .here fun start hstart => .skip fun id => .bind htype fun t ht => ?_
  refine .skip fun _ => .ite (fun _ => ?_) fun _ => .pure ⟨⟨hstart, ht⟩, nofun⟩
  exact .bind hn.expression fun e he => .pure ⟨⟨hstart, ht⟩, by simpa using he⟩

theorem of_keywordParams {params : List (Param × Option Expr)}
    (h : keywordParams items = some (params, last)) :
    (∀ p ∈ params, .plain p.1 p.2 ∈ items) ∧ ∀ p ∈ last, .doubleStar p ∈ items := by
  fun_induction keywordParams items generalizing params last with
  | case1 =>
    cases h
    exact ⟨nofun, nofun⟩
  | case2 p =>
    cases h
    exact ⟨nofun, by simp⟩
  | case3 p d rest ih =>
    obtain ⟨⟨more, last'⟩, hmore, hpure⟩ := Option.bind_eq_some_iff.1 h
    cases hpure
    obtain ⟨hplain, hlast⟩ := ih hmore
    refine ⟨forall_mem_cons.2 ⟨mem_cons_self .., fun q hq => ?_⟩, fun q hq => ?_⟩
    · exact mem_cons_of_mem _ (hplain q hq)
    · exact mem_cons_of_mem _ (hlast q hq)
  | case4 => cases h

theorem of_leadingParams {rest : List ParamItem} {only : Option (List (Param × Option Expr))}
    {params : List (Param × Option Expr)} (h : leadingParams items = some (only, params, rest)) :
    (∀ p ∈ only.getD [] ++ params, .plain p.1 p.2 ∈ items) ∧ rest ⊆ items := by
  fun_induction leadingParams items generalizing only params rest with
  | case1 p d tail ih =>
    obtain ⟨⟨before, more, after⟩, hmore, h⟩ := Option.bind_eq_some_iff.1 h
    obtain ⟨hplain, hrest⟩ := ih hmore
    cases before with
    | none =>
      cases h
      refine ⟨forall_mem_cons.2 ⟨mem_cons_self .., fun q hq => ?_⟩, ?_⟩
      · exact mem_cons_of_mem _ (hplain q hq)
      · exact fun q hq => mem_cons_of_mem _ (hrest hq)
    | some before =>
      cases h
      refine ⟨forall_mem_cons.2 ⟨mem_cons_self .., fun q hq => ?_⟩, ?_⟩
      · exact mem_cons_of_mem _ (hplain q hq)
      · exact fun q hq => mem_cons_of_mem _ (hrest hq)
  | case2 tail ih =>
    obtain ⟨⟨before, more, after⟩, hmore, h⟩ := Option.bind_eq_some_iff.1 h
    obtain ⟨hplain, hrest⟩ := ih hmore
    cases before with
    | none =>
      cases h
      refine ⟨fun q hq => mem_cons_of_mem _ (hplain q hq), ?_⟩
      exact fun q hq => mem_cons_of_mem _ (hrest hq)
    | some before => cases h
  | case3 =>
    cases h
    exact ⟨nofun, List.Subset.refl _⟩

theorem within_restParams (hitems : ∀ i ∈ items, i.Within S)
    {star : Option Param} {byName : List (Param × Option Expr)}
    (h : restParams items = some (star, byName, last)) :
    (∀ p ∈ star, p.Within S) ∧ (∀ p ∈ byName, (ParamItem.plain p.1 p.2).Within S) ∧
      ∀ p ∈ last, p.Within S := by
  unfold restParams at h
  split at h
  · obtain ⟨⟨params, final⟩, hkeyword, h⟩ := Option.bind_eq_some_iff.1 h
    obtain ⟨-, h⟩ := Option.ite_none_left_eq_some.1 h
    cases h
    rw [forall_mem_cons] at hitems
    obtain ⟨hplain, hlast⟩ := of_keywordParams hkeyword
    exact ⟨hitems.1, fun p hp => hitems.2 _ (hplain p hp), fun p hp => hitems.2 _ (hlast p hp)⟩
  · obtain ⟨⟨params, final⟩, hkeyword, h⟩ := Option.bind_eq_some_iff.1 h
    obtain ⟨-, h⟩ := Option.ite_none_right_eq_some.1 h
    cases h
    obtain ⟨-, hlast⟩ := of_keywordParams hkeyword
    exact ⟨nofun, nofun, fun p hp => hitems _ (hlast p hp)⟩

theorem within_paramsOf {ps : Params} (hitems : ∀ i ∈ items, i.Within S)
    (h : paramsOf items = some ps) : ps.Within S := by
  unfold paramsOf at h
  obtain ⟨⟨only, plain, rest⟩, hleading, h⟩ := Option.bind_eq_some_iff.1 h
  obtain ⟨hplain, hrest⟩ := of_leadingParams hleading
  obtain ⟨-, h⟩ := Option.ite_none_left_eq_some.1 h
  obtain ⟨-, h⟩ := Option.ite_none_left_eq_some.1 h
  obtain ⟨⟨star, byName, last⟩, hparts, h⟩ := Option.bind_eq_some_iff.1 h
  obtain ⟨hstar, hbyName, hlast⟩ := within_restParams (fun i hi => hitems i (hrest hi)) hparts
  have hleading : ∀ p ∈ only.getD [] ++ plain, (ParamItem.plain p.1 p.2).Within S :=
    fun p hp => hitems _ (hplain p hp)
  cases h
  refine ⟨?_, ?_, ?_⟩
  · simp only [Params.all, forall_mem_append, forall_mem_map, Option.mem_toList] at hleading ⊢
    exact ⟨⟨⟨⟨fun p hp => (hleading.1 p hp).1, fun p hp => (hleading.2 p hp).1⟩, hstar⟩,
      fun p hp => (hbyName p hp).1⟩, hlast⟩
  · exact forall_mem_map.2 fun p hp => (hbyName p hp).2
  · intro e he
    obtain ⟨p, hp, hpe⟩ := mem_filterMap.1 he
    exact (hleading p hp).2 e hpe

theorem reads_params (hn : n.Within k) {close : Symbol}
    (htype : Reads k type fun a => ∀ e ∈ a, e.Within k)
    (hstarType : Reads k starType fun a => ∀ e ∈ a, e.Within k) :
    Reads k (params n type starType close) (Params.Within k) := by
  have hempty : Reads k (pure []) fun items : List ParamItem => ∀ i ∈ items, i.Within k :=
    .pure (forall_mem_nil _)
  have hitems : Reads k (Prod.fst <$> (paramItem n type starType).commaSeparated
      (Reader.atSymbol close)) fun items => ∀ i ∈ items, i.Within k :=
    .map (.commaSeparated (reads_paramItem hn htype hstarType))
  refine .skip fun _ => ?_
  dsimp only
  refine .ite (fun _ => .bind hempty ?_) fun _ => .bind hitems ?_
  all_goals
    intro items hitems
    refine .skip fun _ => .ite (fun _ => ?_) fun _ => .fail
    split
    · exact .pure (within_paramsOf hitems ‹_›)
    · exact .fail

theorem reads_lambdaExpression (hn : n.Within k) : Reads k (lambdaExpression n) (Within k) := by
  refine .bind .here fun start hstart => .skip fun _ => ?_
  refine .bind (reads_params hn (.pure nofun) (.pure nofun)) fun ps hps => .skip fun _ => ?_
  refine .bind hn.expression fun body hbody => .pure ((within_iff rfl rfl).2 ⟨hstart, ?_⟩)
  simp only [children, forall_mem_append, forall_mem_singleton]
  refine ⟨⟨fun e he => ?_, hps.defaults⟩, hbody⟩
  obtain ⟨d, hd, hde⟩ := mem_filterMap.1 he
  exact hps.keywordDefaults d hd e hde

theorem reads_expression (hn : n.Within k) : Reads k (expression n) (Within k) := by
  refine .skip fun _ => .ite (fun _ => reads_lambdaExpression hn) fun _ => ?_
  refine .bind .here fun start hstart => .bind (reads_disjunction hn) fun body hbody => ?_
  refine .skip fun _ => .ite (fun _ => ?_) fun _ => .pure hbody
  refine .bind (reads_disjunction hn) fun test htest => .skip fun _ => ?_
  refine .bind hn.expression fun orelse horelse => .pure ((within_iff rfl rfl).2 ⟨hstart, ?_⟩)
  simpa [children] using ⟨htest, hbody, horelse⟩

end Expr

theorem Nested.within_atDepth (depth : Nat) : (Nested.atDepth depth).Within k := by
  induction depth with
  | zero => exact ⟨.fail, .fail, .fail, .fail, .fail⟩
  | succ depth ih =>
    exact ⟨Expr.reads_expression ih, Expr.reads_disjunction ih, Expr.reads_inversion ih,
      Expr.reads_bitwiseOr ih, Expr.reads_factor ih⟩

end Source

end DataDiagram
