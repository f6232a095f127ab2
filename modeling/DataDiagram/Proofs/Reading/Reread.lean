import DataDiagram.Code.Same
import DataDiagram.Module.Print
import DataDiagram.Proofs.Code.Spelling
import DataDiagram.Proofs.Computation
import DataDiagram.Proofs.Datum
import DataDiagram.Proofs.Source.Takes
import DataDiagram.Static.Evaluator
/-!
# Printed expressions are read as what they are

The text of an expression is read as a tree whose code is the expression again.  Operands are read
at the tightest level, because those that are operations stand between parentheses; so an operator
never meets one of another level.  The text of a declaration does not hold its size, which is lost.
-/

namespace DataDiagram.Reading

open List

open DataDiagram.Source (Part TokenKind Symbol Expr Nested UnaryOp BinaryOp BoolOp CompareOp)
open DataDiagram.Source.Reader (Takes)

/-! ## Code of source trees -/

/-- A context in which no name stands for a constant. -/
def plainContext (lines : List String) : Context := ⟨lines, fun _ => none⟩

/-- Whether the code of a source tree is an expression, without any static names and up to
origins. -/
def Means (lines : List String) (c : Code) (e : Expr) : Prop :=
  ∃ c', lowerExpr (plainContext lines) e = .ok c' ∧ c'.same c = true ∧ c'.display = c.display

namespace Means

attribute [local simp] Code.same Code.sameAll Code.display Code.displayAll lowerExpr lowerExprs

variable {lines : List String} {ref : Option Origin} {c a b : Code} {cs : List Code}
  {e e₁ e₂ : Expr}
  {es : List Expr} {p : Position} {s : String}

theorem isStarred_eq (h : Means lines c e) : e.isStarred = false := by
  obtain ⟨c', h, -⟩ := h
  cases e with
  | starred p e u => exact nomatch h
  | _ => rfl

theorem constant {d : Datum} {n : Int} (hd : d.int? = some n) :
    Means lines (.constOf ref d) (.constant (some p) d) := by
  refine ⟨.constOf (some ((plainContext lines).origin (some p))) d, ?_, ?_, by simp [Code.display]⟩
  · rw [lowerExpr, hd]
  · simp [Code.same, Datum.same_self_of_int? hd]

theorem name (id : String) : Means lines (.nameOf ref id) (.name p id .load) :=
  ⟨_, rfl, by simp [Code.same, Datum.same_str], rfl⟩

theorem field (h : Means lines c e) (s : String) :
    Means lines (.attrOf ref c s) (.field p e s .load) := by
  obtain ⟨c', hc, hsame, hdisplay⟩ := h
  exact ⟨_, by rw [lowerExpr, hc]; rfl, by simp [Code.same, hsame, Datum.same_str],
    by simp [Code.display, hdisplay]⟩

theorem subscript (ha : Means lines a e₁) (hb : Means lines b e₂) :
    Means lines (.item ref a b) (.subscript p e₁ e₂ .load) := by
  obtain ⟨a', ha, hsame, hdisplay⟩ := ha
  obtain ⟨b', hb, hsame', hdisplay'⟩ := hb
  exact ⟨_, by rw [lowerExpr, ha, hb]; rfl, by simp [Code.same, hsame, hsame'],
    by simp [Code.display, hdisplay, hdisplay']⟩

theorem unary {o : UnaryOp} (ho : (s, o) ∈ [("-", UnaryOp.minus), ("not", .logicalNot)])
    (h : Means lines c e) : Means lines (.opOf ref s [c]) (.unary p o e) := by
  obtain ⟨c', hc, hsame, hdisplay⟩ := h
  simp only [mem_cons, not_mem_nil, or_false, Prod.mk.injEq] at ho
  rcases ho with ⟨rfl, rfl⟩ | ⟨rfl, rfl⟩
  all_goals
    exact ⟨_, by rw [lowerExpr, hc]; rfl, by simp [Code.same, Code.sameAll, hsame, Datum.same_str],
      by simp [Code.display, Code.displayAll, hdisplay]⟩

theorem binary {o : BinaryOp} (ho : binarySymbol? o = some s) (ha : Means lines a e₁)
    (hb : Means lines b e₂) : Means lines (.opOf ref s [a, b]) (.binary p o e₁ e₂) := by
  obtain ⟨a', ha, hsame, hdisplay⟩ := ha
  obtain ⟨b', hb, hsame', hdisplay'⟩ := hb
  exact ⟨_, by rw [lowerExpr, ho, ha, hb]; rfl,
    by simp [Code.same, Code.sameAll, hsame, hsame', Datum.same_str],
    by simp [Code.display, Code.displayAll, hdisplay, hdisplay']⟩

theorem compare {o : CompareOp} (ho : compareSymbol o = .ok s) (ha : Means lines a e₁)
    (hb : Means lines b e₂) : Means lines (.opOf ref s [a, b]) (.compare p e₁ [o] [e₂]) := by
  obtain ⟨a', ha, hsame, hdisplay⟩ := ha
  obtain ⟨b', hb, hsame', hdisplay'⟩ := hb
  refine ⟨.opOf (some ((plainContext lines).origin (some p))) s [a', b'], ?_,
    by simp [Code.same, Code.sameAll, hsame, hsame', Datum.same_str],
    by simp [Code.display, Code.displayAll, hdisplay, hdisplay']⟩
  have hpairs (r : Option Origin) : comparePairs r [o] [a', b'] = .ok [.opOf r s [a', b']] := by
    rw [comparePairs, ho]
    rfl
  simp only [lowerExpr, lowerExprs, ha, hb, bind, Except.bind, pure, Except.pure, hpairs]
  rfl

theorem lowerExprs_eq (h : List.Forall₂ (Means lines) cs es) :
    ∃ cs', lowerExprs (plainContext lines) es = .ok cs' ∧
    Code.sameAll cs' cs = true ∧ Code.displayAll cs' = Code.displayAll cs := by
  induction h with
  | nil => exact ⟨[], rfl, rfl, rfl⟩
  | cons h _ ih =>
    obtain ⟨c', hc, hsame, hdisplay⟩ := h
    obtain ⟨cs', hcs, hsames, hdisplays⟩ := ih
    exact ⟨c' :: cs', by rw [lowerExprs, hc, hcs]; rfl, by simp [Code.sameAll, hsame, hsames],
      by simp [Code.displayAll, hdisplay, hdisplays]⟩

theorem connected (o : BoolOp) (h : List.Forall₂ (Means lines) cs es) :
    Means lines (.opOf ref (boolSymbol o) cs) (.bool p o es) := by
  obtain ⟨cs', hcs, hsame, hdisplay⟩ := lowerExprs_eq h
  exact ⟨_, by rw [lowerExpr, hcs]; rfl, by simp [Code.same, hsame, Datum.same_str],
    by simp [Code.display, hdisplay]⟩

theorem call {u : Source.Usage} {q : Position} (f : String) (h : List.Forall₂ (Means lines) cs es) :
    Means lines (.callOf ref f cs) (.call p (.name q f u) es []) := by
  obtain ⟨cs', hcs, hsame, hdisplay⟩ := lowerExprs_eq h
  exact ⟨_, by rw [lowerExpr, hcs]; rfl, by simp [Code.same, hsame, Datum.same_str],
    by simp [Code.display, hdisplay]⟩

end Means

/-! ## The first token, and tokens that do not occur -/

variable {lines : List String} {c : Code} {cs : List Code} {d : Nat} {next : Option TokenKind}

/-- Whether an expression starts like an operand, unless it is an operation, which may start with
its operator. -/
def Starts (c : Code) : Prop := ∃ t k ps, c.parts = .token t k :: ps ∧ Expr.IsStart k ∧
  (c.isOp = false → Expr.IsOperandStart k)

theorem Starts.operand (h : Starts c) : ∃ t k ps, c.operandParts = .token t k :: ps ∧
    Expr.IsOperandStart k := by
  obtain ⟨t, k, ps, hparts, -, hstart⟩ := h
  rw [Code.operandParts, Code.enclosed]
  by_cases hop : c.isOp = true
  · rw [if_pos hop]
    exact ⟨_, _, _, rfl, trivial⟩
  · rw [if_neg hop]
    exact ⟨t, k, ps, hparts, hstart (by simpa using hop)⟩

variable {c₂ v : Code} {k : TokenKind} {s : String} {P : Expr → Prop} {ks : List TokenKind}
  {n : Nested}

theorem starts_opOf (ref : Option Origin) (s : String) (h : Starts c) :
    Starts (.opOf ref s (c :: c₂ :: cs)) := by
  obtain ⟨t, k, ps, hparts, hstart⟩ := h.operand
  rw [Starts, Code.parts_opOf, hparts]
  exact ⟨t, k, _, rfl, hstart.isStart, nofun⟩

theorem starts (h : c.Plain) : Starts c := by
  induction h with
  | int ref n => exact ⟨_, _, _, rfl, trivial, fun _ => trivial⟩
  | bool ref b => cases b <;> exact ⟨_, _, _, rfl, trivial, fun _ => trivial⟩
  | name ref hid => exact ⟨_, _, _, rfl, trivial, fun _ => trivial⟩
  | @attr ref v a hv hint ha ih =>
    obtain ⟨t, k, ps, hparts, hstart⟩ := ih.operand
    rw [Starts, Code.parts, ← Code.operandParts, hparts]
    exact ⟨t, k, _, rfl, hstart.isStart, fun _ => hstart⟩
  | @item ref v i hv hi ihv ihi =>
    obtain ⟨t, k, ps, hparts, hstart⟩ := ihv.operand
    rw [Starts, Code.parts, ← Code.operandParts, hparts]
    exact ⟨t, k, _, rfl, hstart.isStart, fun _ => hstart⟩
  | @call ref f args hf hargs ih =>
    rw [Starts]
    cases args <;> exact ⟨_, _, _, rfl, trivial, fun _ => trivial⟩
  | @unary ref s k c hs hc ih =>
    rw [Starts, Code.parts, Code.operatorPart_eq (Code.mem_operators_of_signs hs)]
    refine ⟨s, k, _, rfl, ?_, by rintro ⟨⟩⟩
    simp only [Code.signs, mem_cons, not_mem_nil, or_false, Prod.mk.injEq] at hs
    rcases hs with ⟨-, rfl⟩ | ⟨-, rfl⟩ <;> trivial
  | binary ref hs ha hb iha ihb => exact starts_opOf ref _ iha
  | connected ref hs hcs ih => exact starts_opOf ref _ (ih _ (mem_cons_self ..))

theorem exists_operand_kinds_eq (h : c.Plain) : ∃ k ks, Part.kinds c.operandParts = k :: ks ∧
    Expr.IsOperandStart k := by
  obtain ⟨t, k, ps, hparts, hstart⟩ := (starts h).operand
  exact ⟨k, Part.kinds ps, by rw [hparts]; rfl, hstart⟩

/-- Whether no token gives a name a value. -/
def Unassigned (ks : List TokenKind) : Prop := ∀ k ∈ ks, k ≠ .symbol .walrus ∧ k ≠ .symbol .equals

theorem unassigned_operand (h : Unassigned (Part.kinds c.parts)) :
    Unassigned (Part.kinds c.operandParts) := by
  rw [Code.operandParts, Code.enclosed]
  split
  · rw [Code.kinds_mark, Part.kinds_append]
    exact forall_mem_cons.2
      ⟨by simp, forall_mem_append.2 ⟨h, by simp [Part.kinds, Part.kind?, Code.mark]⟩⟩
  · exact h

theorem unassigned_opOf (ref : Option Origin) (hs : (s, k) ∈ Code.operators)
    (h : ∀ x ∈ c :: c₂ :: cs, Unassigned (Part.kinds x.parts)) :
    Unassigned (Part.kinds (Code.parts (.opOf ref s (c :: c₂ :: cs)))) := by
  have hk : k ≠ .symbol .walrus ∧ k ≠ .symbol .equals := by
    refine Code.forall_operators (P := fun _ k => k ≠ .symbol .walrus ∧ k ≠ .symbol .equals) ?_ hs
    repeat' apply And.intro
    all_goals simp
  rw [forall_mem_cons] at h
  rw [Code.parts_opOf, Part.kinds_append, Code.kinds_laterOperands hs]
  refine forall_mem_append.2 ⟨unassigned_operand h.1, fun l hl => ?_⟩
  obtain ⟨x, hx, hl⟩ := mem_flatMap.1 hl
  rcases mem_cons.1 hl with rfl | hl
  · exact hk
  · exact unassigned_operand (h.2 x hx) l hl

theorem unassigned (h : c.Plain) : Unassigned (Part.kinds c.parts) := by
  induction h with
  | int ref n => exact forall_mem_singleton.2 (by simp)
  | bool ref b => exact forall_mem_singleton.2 (by simp)
  | name ref hid => exact forall_mem_singleton.2 (by simp)
  | @attr ref v a hv hint ha ih =>
    rw [Code.parts, Part.kinds_append]
    exact forall_mem_append.2 ⟨unassigned_operand ih, by simp [Part.kinds, Part.kind?, Code.mark]⟩
  | @item ref v i hv hi ihv ihi =>
    rw [Code.parts, Part.kinds_append, Code.kinds_mark, Part.kinds_append]
    refine forall_mem_append.2 ⟨unassigned_operand ihv, forall_mem_cons.2 ⟨by simp, ?_⟩⟩
    exact forall_mem_append.2 ⟨ihi, by simp [Part.kinds, Part.kind?, Code.mark]⟩
  | @call ref f args hf hargs ih =>
    cases args with
    | nil => simp [Unassigned, Code.parts, Part.kinds, Part.kind?, Code.mark]
    | cons c cs =>
      rw [forall_mem_cons] at ih
      rw [Code.parts, Part.kinds_token, Code.kinds_mark, Part.kinds_append, Part.kinds_append,
        Code.kinds_laterArguments]
      refine forall_mem_cons.2 ⟨by simp, forall_mem_cons.2 ⟨by simp, ?_⟩⟩
      refine forall_mem_append.2 ⟨forall_mem_append.2 ⟨ih.1, fun l hl => ?_⟩, ?_⟩
      · obtain ⟨x, hx, hl⟩ := mem_flatMap.1 hl
        rcases mem_cons.1 hl with rfl | hl
        · simp
        · exact ih.2 x hx l hl
      · simp [Part.kinds, Part.kind?, Code.mark]
  | @unary ref s k c hs hc ih =>
    rw [Code.parts, Code.operatorPart_eq (Code.mem_operators_of_signs hs), Part.kinds_token,
      Part.kinds_blank]
    refine forall_mem_cons.2 ⟨?_, unassigned_operand ih⟩
    simp only [Code.signs, mem_cons, not_mem_nil, or_false, Prod.mk.injEq] at hs
    rcases hs with ⟨-, rfl⟩ | ⟨-, rfl⟩ <;> simp
  | binary ref hs ha hb iha ihb =>
    exact unassigned_opOf ref (Code.mem_operators_of_relations hs) (by simpa using ⟨iha, ihb⟩)
  | connected ref hs hcs ih => exact unassigned_opOf ref (Code.mem_operators_of_connectives hs) ih

theorem exists_kinds_eq (h : c.Plain) : ∃ k ks, Part.kinds c.parts = k :: ks ∧ Expr.IsStart k ∧
    ∀ s ∈ [Symbol.walrus, .equals], .symbol s ∉ ks := by
  obtain ⟨t, k, ps, hparts, hstart, -⟩ := starts h
  have hfree := unassigned h
  rw [hparts, Part.kinds_token, Unassigned, forall_mem_cons] at hfree
  refine ⟨k, Part.kinds ps, by rw [hparts]; rfl, hstart, fun s hs hmem => ?_⟩
  simp only [mem_cons, not_mem_nil, or_false] at hs
  rcases hs with rfl | rfl
  · exact (hfree.2 _ hmem).1 rfl
  · exact (hfree.2 _ hmem).2 rfl

/-! ## Reading -/

open DataDiagram.Source.Expr (Follows closers connectives comparisons sum)

/-- Whether the tokens of an operand are read as what it means.  As many levels as there are tokens
suffice. -/
def ReadsOperand (lines : List String) (c : Code) : Prop :=
  ∀ d next, (Part.kinds c.operandParts).length ≤ d →
    Expr.Based (.atDepth d) (Part.kinds c.operandParts) next (Means lines c)

/-- Whether the tokens of an expression that stands alone are read as what it means. -/
def ReadsAlone (lines : List String) (c : Code) : Prop :=
  ∀ d next, (Part.kinds c.parts).length ≤ d → Follows closers next →
    Takes (Expr.expression (.atDepth d)) (Part.kinds c.parts) next (Means lines c)

theorem takes_expression_of_inversion
    (h : Takes (Expr.inversion n) (k :: ks) next P) (hk : k ≠ .keyword .lambda_)
    (hnext : Follows closers next) :
    Takes (Expr.expression n) (k :: ks) next P :=
  Expr.takes_expression
    (Expr.takes_connected_one (Expr.takes_connected_one h (hnext.ne (by simp [closers])))
    (hnext.ne (by simp [closers]))) hk hnext

theorem takes_expression_of_sum
    (h : Takes (sum n) (k :: ks) next P) (hnot : k ≠ .keyword .not_)
    (hlambda : k ≠ .keyword .lambda_)
    (hnext : Follows closers next) : Takes (Expr.expression n) (k :: ks) next P :=
  h.lift fun _ _ _ _ ht _ hrest _ hread =>
    Expr.expression_of_sum (ht ▸ hnot) (ht ▸ hlambda) hread (hrest ▸ hnext)

/-- What follows an operand of a comparison continues no operand. -/
theorem follows_loose (h : Follows (comparisons ++ (connectives ++ closers)) next) :
    (∀ s ∈ [Symbol.doubleStar, .dot, .openParen, .openBracket], next ≠ some (.symbol s)) ∧
      Expr.productOp next = none ∧ Expr.sumOp next = none := by
  obtain ⟨k, hk, rfl⟩ := h
  simp only [comparisons, connectives, closers, cons_append, nil_append, mem_cons,
    not_mem_nil, or_false] at hk
  rcases hk with rfl | rfl | rfl | rfl | rfl | rfl | rfl | rfl | rfl | rfl | rfl | rfl | rfl |
      rfl | rfl | rfl <;>
    simp [Expr.productOp, Expr.sumOp]

namespace ReadsOperand

variable (h : ReadsOperand lines c) (hc : c.Plain) (hd : (Part.kinds c.operandParts).length ≤ d)
include h hc hd

theorem takes_factor (hnext : ∀ s ∈ [Symbol.doubleStar, .dot, .openParen, .openBracket],
      next ≠ some (.symbol s)) :
    Takes (Expr.factor (.atDepth d)) (Part.kinds c.operandParts) next (Means lines c) := by
  obtain ⟨k, ks, hk, hstart⟩ := exists_operand_kinds_eq hc
  have hprimary := (h d next hd).takes hnext
  rw [hk] at hprimary ⊢
  exact Expr.takes_factor hprimary hstart (hnext .doubleStar (by decide))

theorem takes_product (hnext : ∀ s ∈ [Symbol.doubleStar, .dot, .openParen, .openBracket],
      next ≠ some (.symbol s))
    (hproduct : Expr.productOp next = none) :
    Takes (Expr.leftGrouped Expr.productOp (Expr.factor (.atDepth d)))
    (Part.kinds c.operandParts) next
      (Means lines c) := by
  obtain ⟨k, ks, hk, -⟩ := exists_operand_kinds_eq hc
  have hfactor := h.takes_factor hc hd hnext
  rw [hk] at hfactor ⊢
  exact Expr.takes_leftGrouped hfactor hproduct

theorem takes_bitwiseOr (hnext : Follows (comparisons ++ (connectives ++ closers)) next) :
    Takes (Expr.bitwiseOr (.atDepth d)) (Part.kinds c.operandParts) next (Means lines c) := by
  obtain ⟨htrailer, hproduct, hsum⟩ := follows_loose hnext
  obtain ⟨k, ks, hk, -⟩ := exists_operand_kinds_eq hc
  have hproduct := h.takes_product hc hd htrailer hproduct
  rw [hk] at hproduct ⊢
  exact Expr.takes_bitwiseOr (Expr.takes_leftGrouped hproduct hsum) hnext

theorem takes_inversion (hnext : Follows (connectives ++ closers) next) :
    Takes (Expr.inversion (.atDepth d)) (Part.kinds c.operandParts) next (Means lines c) := by
  obtain ⟨k, ks, hk, hstart⟩ := exists_operand_kinds_eq hc
  have hbitwise := h.takes_bitwiseOr hc hd (hnext.append_left comparisons)
  rw [hk] at hbitwise ⊢
  exact Expr.takes_inversion (Expr.takes_comparison hbitwise hnext) (hstart.ne id)

omit hd

theorem alone (hop : c.isOp = false) : ReadsAlone lines c := by
  intro d next hd hnext
  have hparts : c.operandParts = c.parts := by
    rw [Code.operandParts, Code.enclosed, hop]
    rfl
  obtain ⟨k, ks, hk, hstart⟩ := exists_operand_kinds_eq hc
  rw [← hparts] at hd ⊢
  have hinversion := h.takes_inversion hc hd (hnext.append_left connectives)
  rw [hk] at hinversion ⊢
  exact takes_expression_of_inversion hinversion (hstart.ne id) hnext

end ReadsOperand

theorem ReadsAlone.operand (h : ReadsAlone lines c) (hc : c.Plain) (hop : c.isOp = true) :
    ReadsOperand lines c := by
  intro d next hd
  obtain ⟨k, ks, hk, hstart, hfree⟩ := exists_kinds_eq hc
  rw [Code.operandParts, Code.enclosed, if_pos hop, Code.kinds_mark, Part.kinds_append] at hd ⊢
  rw [length_cons, length_append] at hd
  obtain ⟨d, rfl⟩ : ∃ j, d = j + 1 := ⟨d - 1, by omega⟩
  have hinside := h d (some (.symbol .closeParen)) (by omega) ⟨_, by simp [closers], rfl⟩
  rw [hk] at hinside ⊢
  exact .of_atom (Expr.takes_parens hinside hstart (hfree .walrus (by decide)) fun _ he =>
    he.isStarred_eq)

/-! ### Operands -/

theorem readsOperand_of_parts (hop : c.isOp = false)
    (h : ∀ d next, (Part.kinds c.parts).length ≤ d →
    Expr.Based (.atDepth d) (Part.kinds c.parts) next (Means lines c)) : ReadsOperand lines c := by
  rw [ReadsOperand, Code.operandParts, Code.enclosed, hop]
  exact h

theorem readsOperand_attr (ref : Option Origin) (a : String) (hv : ReadsOperand lines v) :
    ReadsOperand lines (.attrOf ref v a) := by
  refine readsOperand_of_parts rfl fun d next hd => ?_
  rw [Code.parts, ← Code.operandParts, Part.kinds_append] at hd ⊢
  rw [length_append] at hd
  refine ((hv d _ (by omega)).field a).mono ?_
  rintro _ ⟨p, e, he, rfl⟩
  exact he.field a

theorem readsOperand_item (ref : Option Origin) {i : Code} (hi : i.Plain)
    (hv : ReadsOperand lines v)
    (hindex : ReadsAlone lines i) : ReadsOperand lines (.item ref v i) := by
  refine readsOperand_of_parts rfl fun d next hd => ?_
  rw [Code.parts, ← Code.operandParts, Part.kinds_append, Code.kinds_mark, Part.kinds_append]
    at hd ⊢
  rw [length_append, length_cons, length_append] at hd
  obtain ⟨d, rfl⟩ : ∃ j, d = j + 1 := ⟨d - 1, by omega⟩
  obtain ⟨k, ks, hk, hstart, hfree⟩ := exists_kinds_eq hi
  have hinside := hindex d (some (.symbol .closeBracket)) (by omega) ⟨_, by simp [closers], rfl⟩
  rw [hk] at hinside ⊢
  have hslices : Takes (Expr.slices (.atDepth (d + 1))) (k :: ks) (some (.symbol .closeBracket))
      (Means lines i) :=
    Expr.takes_slices hinside hstart (hfree .walrus (by decide)) fun _ he => he.isStarred_eq
  refine ((hv (d + 1) _ (by omega)).item hslices).mono ?_
  rintro _ ⟨p, e, he, e', he', rfl⟩
  exact he.subscript he'

theorem length_le_flatMap {α β : Type} {x : α} {xs : List α} (f : α → List β) (hx : x ∈ xs) :
    (f x).length ≤ (xs.flatMap f).length :=
  (sublist_flatten_of_mem (mem_map_of_mem hx)).length_le

theorem readsOperand_call (ref : Option Origin) (f : String) (hcs : ∀ x ∈ cs, x.Plain)
    (h : ∀ x ∈ cs, ReadsAlone lines x) : ReadsOperand lines (.callOf ref f cs) := by
  refine readsOperand_of_parts rfl fun d next hd => ?_
  have hname : Expr.Based (.atDepth d) [.name f] (some (.symbol .openParen))
      fun e => ∃ p, e = .name p f .load := .of_atom (Expr.takes_name f)
  have hmeans (e' : Expr) :
      (∃ p e, (∃ q, e = .name q f .load) ∧ ∃ es, List.Forall₂ (Means lines) cs es ∧
      e' = .call p e es []) → Means lines (.callOf ref f cs) e' := by
    rintro ⟨p, _, ⟨q, rfl⟩, es, hes, rfl⟩
    exact .call f hes
  cases cs with
  | nil =>
    refine (hname.call (Expr.takes_callArguments_nil.mono ?_)).mono hmeans
    rintro _ rfl
    exact ⟨[], .nil, rfl⟩
  | cons c cs =>
    rw [Code.parts, Part.kinds_token, Code.kinds_mark, Part.kinds_append, Part.kinds_append,
      Code.kinds_laterArguments] at hd ⊢
    simp only [length_cons, length_append] at hd
    obtain ⟨d, rfl⟩ : ∃ j, d = j + 1 := ⟨d - 1, by omega⟩
    have hlength : ∀ x ∈ c :: cs, (Part.kinds x.parts).length ≤ d := by
      refine forall_mem_cons.2 ⟨by omega, fun x hx => ?_⟩
      have hle := length_le_flatMap (fun c => TokenKind.symbol .comma :: Part.kinds c.parts) hx
      rw [length_cons] at hle
      omega
    have hargs : Takes (Expr.callArguments (.atDepth (d + 1))) (.symbol .openParen ::
        (Takes.separated (fun x : Code => Part.kinds x.parts) c cs ++ [.symbol .closeParen])) next
        fun args => ∃ es, List.Forall₂ (Means lines) (c :: cs) es ∧ args = es.map .positional :=
      Expr.takes_callArguments (fun x hx => exists_kinds_eq (hcs x hx)) fun x hx next hnext =>
        h x hx d next (hlength x hx) hnext
    exact (hname.call hargs).mono hmeans

/-! ### Operations -/

theorem readsAlone_sign (ref : Option Origin) (hs : (s, k) ∈ Code.signs)
    (hc : c.Plain) (h : ReadsOperand lines c) : ReadsAlone lines (.opOf ref s [c]) := by
  intro d next hd hnext
  rw [Code.parts, Code.operatorPart_eq (Code.mem_operators_of_signs hs), Part.kinds_token,
    Part.kinds_blank,
    ← Code.operandParts] at hd ⊢
  rw [length_cons] at hd
  obtain ⟨d, rfl⟩ : ∃ j, d = j + 1 := ⟨d - 1, by omega⟩
  have hconnective := hnext.append_left connectives
  simp only [Code.signs, mem_cons, not_mem_nil, or_false, Prod.mk.injEq] at hs
  rcases hs with ⟨rfl, rfl⟩ | ⟨rfl, rfl⟩
  · obtain ⟨htrailer, hproduct, hsum⟩ := follows_loose (hconnective.append_left comparisons)
    have hminus :
        Takes (Expr.factor (.atDepth (d + 1))) (.symbol .minus :: Part.kinds c.operandParts) next
        (Means lines (.opOf ref "-" [c])) := by
      refine (Expr.takes_minus (h.takes_factor hc (by omega) htrailer)).mono ?_
      rintro _ ⟨p, e, he, rfl⟩
      exact he.unary (by simp)
    exact takes_expression_of_sum
      (Expr.takes_leftGrouped (Expr.takes_leftGrouped hminus hproduct) hsum)
      (by simp) (by simp) hnext
  · have hnot :
        Takes (Expr.inversion (.atDepth (d + 1))) (.keyword .not_ :: Part.kinds c.operandParts) next
        (Means lines (.opOf ref "not" [c])) := by
      refine (Expr.takes_not (h.takes_inversion hc (by omega) hconnective)).mono ?_
      rintro _ ⟨p, e, he, rfl⟩
      exact he.unary (by simp)
    exact takes_expression_of_inversion hnot (by simp) hnext

section Relations

variable {ref : Option Origin} {s : String} {k : TokenKind} {a b : Code}
variable (ha : a.Plain) (hb : b.Plain) (hleft : ReadsOperand lines a)
  (hright : ReadsOperand lines b)
  (hda : (Part.kinds a.operandParts).length ≤ d) (hdb : (Part.kinds b.operandParts).length ≤ d)
  (hnext : Follows closers next)
include ha hb hleft hright hda hdb hnext

variable {o : BinaryOp}

theorem takes_terms (hop : Expr.sumOp (some k) = some o) (ho : binarySymbol? o = some s)
    (hloose : ∀ s ∈ [Symbol.doubleStar, .dot, .openParen, .openBracket], some k ≠ some (.symbol s))
    (hnone : Expr.productOp (some k) = none) : Takes (Expr.expression (.atDepth d))
      (Part.kinds a.operandParts ++ k :: Part.kinds b.operandParts)
      next (Means lines (.opOf ref s [a, b])) := by
  obtain ⟨htrailer, hproduct, hsum⟩ :=
    follows_loose ((hnext.append_left connectives).append_left comparisons)
  obtain ⟨l, ls, hl, hstart⟩ := exists_operand_kinds_eq ha
  have hfirst := hleft.takes_product ha hda hloose hnone
  have hsecond := hright.takes_product hb hdb htrailer hproduct
  rw [hl] at hfirst ⊢
  refine takes_expression_of_sum ((Expr.takes_joined hfirst hop hsecond hsum).mono ?_)
    (hstart.ne id)
    (hstart.ne id) hnext
  rintro _ ⟨p, e₁, e₂, he₁, he₂, rfl⟩
  exact he₁.binary ho he₂

theorem takes_factors (hop : Expr.productOp (some k) = some o) (ho : binarySymbol? o = some s)
    (hloose : ∀ s ∈ [Symbol.doubleStar, .dot, .openParen, .openBracket],
      some k ≠ some (.symbol s)) :
    Takes (Expr.expression (.atDepth d))
    (Part.kinds a.operandParts ++ k :: Part.kinds b.operandParts) next
      (Means lines (.opOf ref s [a, b])) := by
  obtain ⟨htrailer, hproduct, hsum⟩ :=
    follows_loose ((hnext.append_left connectives).append_left comparisons)
  obtain ⟨l, ls, hl, hstart⟩ := exists_operand_kinds_eq ha
  have hfirst := hleft.takes_factor ha hda hloose
  have hsecond := hright.takes_factor hb hdb htrailer
  rw [hl] at hfirst ⊢
  refine takes_expression_of_sum (Expr.takes_leftGrouped
    ((Expr.takes_joined hfirst hop hsecond hproduct).mono ?_) hsum) (hstart.ne id)
      (hstart.ne id) hnext
  rintro _ ⟨p, e₁, e₂, he₁, he₂, rfl⟩
  exact he₁.binary ho he₂

theorem takes_compared {o : CompareOp} (hop : Expr.comparisonOf k = some o)
    (ho : compareSymbol o = .ok s) (hk : k ∈ comparisons) : Takes (Expr.expression (.atDepth d))
      (Part.kinds a.operandParts ++ k :: Part.kinds b.operandParts)
      next (Means lines (.opOf ref s [a, b])) := by
  have hconnective := hnext.append_left connectives
  obtain ⟨l, ls, hl, hstart⟩ := exists_operand_kinds_eq ha
  have hfirst := hleft.takes_bitwiseOr ha hda ⟨k, mem_append_left _ hk, rfl⟩
  have hsecond := hright.takes_bitwiseOr hb hdb (hconnective.append_left comparisons)
  rw [hl] at hfirst ⊢
  refine takes_expression_of_inversion (Expr.takes_inversion
    ((Expr.takes_compared hfirst hop hsecond hconnective).mono ?_) (hstart.ne id))
      (hstart.ne id) hnext
  rintro _ ⟨p, e₁, e₂, he₁, he₂, rfl⟩
  exact he₁.compare ho he₂

end Relations

theorem readsAlone_relation (ref : Option Origin) {a b : Code}
    (hs : (s, k) ∈ Code.relations) (ha : a.Plain) (hb : b.Plain) (hleft : ReadsOperand lines a)
    (hright : ReadsOperand lines b) : ReadsAlone lines (.opOf ref s [a, b]) := by
  intro d next hd hnext
  rw [Code.parts_opOf, Part.kinds_append,
    Code.kinds_laterOperands (Code.mem_operators_of_relations hs),
    flatMap_singleton] at hd ⊢
  rw [length_append, length_cons] at hd
  have hda : (Part.kinds a.operandParts).length ≤ d := by omega
  have hdb : (Part.kinds b.operandParts).length ≤ d := by omega
  simp only [Code.relations, mem_cons, not_mem_nil, or_false, Prod.mk.injEq] at hs
  rcases hs with ⟨rfl, rfl⟩ | ⟨rfl, rfl⟩ | ⟨rfl, rfl⟩ | ⟨rfl, rfl⟩ | ⟨rfl, rfl⟩ | ⟨rfl,
    rfl⟩ | ⟨rfl, rfl⟩ |
    ⟨rfl, rfl⟩ | ⟨rfl, rfl⟩
  -- Sums and differences, products, and then the comparisons.
  · exact takes_terms ha hb hleft hright hda hdb hnext rfl rfl (by simp) rfl
  · exact takes_terms ha hb hleft hright hda hdb hnext rfl rfl (by simp) rfl
  · exact takes_factors ha hb hleft hright hda hdb hnext rfl rfl (by simp)
  all_goals exact takes_compared ha hb hleft hright hda hdb hnext rfl rfl (by simp [comparisons])

section Connectives

variable {ref : Option Origin} {c₂ : Code} (hcs : ∀ x ∈ c :: c₂ :: cs, x.Plain)
  (h : ∀ x ∈ c :: c₂ :: cs, ReadsOperand lines x)
  (hd : ∀ x ∈ c :: c₂ :: cs, (Part.kinds x.operandParts).length ≤ d) (hnext : Follows closers next)
include hcs h hd hnext

theorem takes_inversion_of_mem (hk : k ∈ connectives) {x : Code} (hx : x ∈ c :: c₂ :: cs)
    {next' : Option TokenKind} (hnext' : next' = some k ∨ next' = next) :
    Takes (Expr.inversion (.atDepth d)) (Part.kinds x.operandParts) next' (Means lines x) := by
  refine (h x hx).takes_inversion (hcs x hx) (hd x hx) ?_
  rcases hnext' with rfl | rfl
  · exact ⟨k, mem_append_left _ hk, rfl⟩
  · exact hnext.append_left connectives

theorem takes_conjunction : Takes (Expr.expression (.atDepth d)) (Part.kinds c.operandParts ++
      (c₂ :: cs).flatMap fun x => .keyword .and_ :: Part.kinds x.operandParts) next
      (Means lines (.opOf ref "and" (c :: c₂ :: cs))) := by
  obtain ⟨l, ls, hl, hstart⟩ := exists_operand_kinds_eq (hcs c (mem_cons_self ..))
  have hand : Takes (Expr.connected .conj .and_ (Expr.inversion (.atDepth d)))
      (Part.kinds c.operandParts ++
      (c₂ :: cs).flatMap fun x => .keyword .and_ :: Part.kinds x.operandParts) next
      (Means lines (.opOf ref "and" (c :: c₂ :: cs))) := by
    refine (Expr.takes_connected (by simp [hl]) (fun x hx next' hnext' =>
      takes_inversion_of_mem hcs h hd hnext (by simp [connectives]) hx hnext')
      (hnext.ne (by simp [closers]))).mono ?_
    rintro _ ⟨p, es, hes, rfl⟩
    exact .connected .conj hes
  rw [hl] at hand ⊢
  exact Expr.takes_expression (Expr.takes_connected_one hand (hnext.ne (by simp [closers])))
    (hstart.ne id) hnext

theorem takes_disjunction : Takes (Expr.expression (.atDepth d)) (Part.kinds c.operandParts ++
      (c₂ :: cs).flatMap fun x => .keyword .or_ :: Part.kinds x.operandParts) next
      (Means lines (.opOf ref "or" (c :: c₂ :: cs))) := by
  obtain ⟨l, ls, hl, hstart⟩ := exists_operand_kinds_eq (hcs c (mem_cons_self ..))
  have hoperand : ∀ x ∈ c :: c₂ :: cs, ∀ next', next' = some (.keyword .or_) ∨ next' = next →
      Takes (Expr.connected .conj .and_ (Expr.inversion (.atDepth d)))
        (Part.kinds x.operandParts) next'
        (Means lines x) := by
    intro x hx next' hnext'
    obtain ⟨m, ms, hm, -⟩ := exists_operand_kinds_eq (hcs x hx)
    have hinside := takes_inversion_of_mem hcs h hd hnext (by simp [connectives]) hx hnext'
    rw [hm] at hinside ⊢
    refine Expr.takes_connected_one hinside ?_
    rcases hnext' with rfl | rfl
    · simp
    · exact hnext.ne (by simp [closers])
  have hor : Takes (Expr.disjunction (.atDepth d)) (Part.kinds c.operandParts ++
      (c₂ :: cs).flatMap fun x => .keyword .or_ :: Part.kinds x.operandParts) next
      (Means lines (.opOf ref "or" (c :: c₂ :: cs))) := by
    refine (Expr.takes_connected (by simp [hl]) hoperand (hnext.ne (by simp [closers]))).mono ?_
    rintro _ ⟨p, es, hes, rfl⟩
    exact .connected .disj hes
  rw [hl] at hor ⊢
  exact Expr.takes_expression hor (hstart.ne id) hnext

end Connectives

theorem readsAlone_connected (ref : Option Origin)
    (hs : (s, k) ∈ Code.connectives) (hcs : ∀ x ∈ c :: c₂ :: cs, x.Plain)
    (h : ∀ x ∈ c :: c₂ :: cs, ReadsOperand lines x) :
    ReadsAlone lines (.opOf ref s (c :: c₂ :: cs)) := by
  intro d next hd hnext
  rw [Code.parts_opOf, Part.kinds_append,
    Code.kinds_laterOperands (Code.mem_operators_of_connectives hs)] at hd ⊢
  have hlength : ∀ x ∈ c :: c₂ :: cs, (Part.kinds x.operandParts).length ≤ d := by
    rw [length_append] at hd
    refine forall_mem_cons.2 ⟨by omega, fun x hx => ?_⟩
    have hle := length_le_flatMap (fun c => k :: Part.kinds c.operandParts) hx
    rw [length_cons] at hle
    omega
  simp only [Code.connectives, mem_cons, not_mem_nil, or_false, Prod.mk.injEq] at hs
  rcases hs with ⟨rfl, rfl⟩ | ⟨rfl, rfl⟩
  · exact takes_conjunction hcs h hlength hnext
  · exact takes_disjunction hcs h hlength hnext

/-! ## Expressions -/

theorem readsOperand_atom (hop : c.isOp = false) (hk : Part.kinds c.parts = [k])
    (h : ∀ n next, Takes (Expr.atom n) [k] next (Means lines c)) : ReadsOperand lines c := by
  refine readsOperand_of_parts hop fun d next _ => ?_
  rw [hk]
  exact .of_atom (h _ next)

/-- The tokens of an expression are read as what it means. -/
theorem reads (lines : List String) (h : c.Plain) : ReadsOperand lines c ∧ ReadsAlone lines c := by
  have hoperand {c : Code} (hc : c.Plain) (hop : c.isOp = false) (h : ReadsOperand lines c) :
      ReadsOperand lines c ∧ ReadsAlone lines c := ⟨h, h.alone hc hop⟩
  have hoperation {c : Code} (hc : c.Plain) (hop : c.isOp = true) (h : ReadsAlone lines c) :
      ReadsOperand lines c ∧ ReadsAlone lines c := ⟨h.operand hc hop, h⟩
  -- Each of the two follows from the other: operands stand alone, and operations are enclosed.
  induction h with
  | int ref n =>
    refine hoperand (.int ref n) rfl (readsOperand_atom rfl rfl fun m next => ?_)
    refine (Expr.takes_number _).mono ?_
    rintro _ ⟨p, rfl⟩
    exact .constant rfl
  | bool ref b =>
    refine hoperand (.bool ref b) rfl (readsOperand_atom rfl rfl fun m next => ?_)
    refine (Expr.takes_bool b).mono ?_
    rintro _ ⟨p, rfl⟩
    exact .constant rfl
  | @name ref id hid =>
    refine hoperand (.name ref hid) rfl (readsOperand_atom rfl rfl fun m next => ?_)
    refine (Expr.takes_name id).mono ?_
    rintro _ ⟨p, rfl⟩
    exact .name id
  | @attr ref v a hv hint ha ih =>
    exact hoperand (.attr ref hv hint ha) rfl (readsOperand_attr ref a ih.1)
  | item ref hv hi ihv ihi =>
    exact hoperand (.item ref hv hi) rfl (readsOperand_item ref hi ihv.1 ihi.2)
  | @call ref f args hf hargs ih =>
    exact hoperand (.call ref hf hargs) rfl (readsOperand_call ref f hargs fun x hx => (ih x hx).2)
  | unary ref hs hc ih => exact hoperation (.unary ref hs hc) rfl (readsAlone_sign ref hs hc ih.1)
  | binary ref hs ha hb iha ihb =>
    exact hoperation (.binary ref hs ha hb) rfl (readsAlone_relation ref hs ha hb iha.1 ihb.1)
  | connected ref hs hcs ih =>
    exact hoperation (.connected ref hs hcs) rfl
      (readsAlone_connected ref hs hcs fun x hx => (ih x hx).1)

/-- The text of an expression is cut into the tokens of its parts. -/
theorem exists_tokens_source (h : c.Plain) (hdigits : c.isDisplayable = true)
    (hbrackets : c.bracketDepth ≤ Source.maxBrackets) : ∃ text us stop, c.source = .ok text ∧
      Source.tokens text.toList = some (us ++ [stop]) ∧ us.map Source.Token.kind =
      Part.kinds c.parts ∧
      stop.kind = .newline ∧ (Part.kinds c.parts).length ≤ text.toList.length := by
  obtain ⟨text, hprint, htext⟩ := h.isPrinted hdigits
  have hsource : c.source = .ok text := by
    rw [Code.source, hprint]
    rfl
  have hfits := h.isCut hdigits '\n' (.inl (by decide))
  have hlength := Part.length_kinds_le hfits
  have hclosed := h.closes [] (by simpa using hbrackets)
  obtain ⟨ts, htokens, hts⟩ : ∃ ts, Source.tokens text.toList = some ts ∧
      ts.map Source.Token.kind = Part.kinds c.parts ++ [.newline] := by
    obtain ⟨t, k, ps, hparts, -⟩ := starts h
    rw [htext]
    rw [hparts] at hfits hclosed ⊢
    exact hfits.tokens_eq hclosed
  obtain ⟨us, vs, rfl, hus, hvs⟩ := map_eq_append_iff.1 hts
  obtain ⟨stop, rfl, hstop⟩ := map_eq_singleton_iff.1 hvs
  exact ⟨text, us, stop, hsource, htokens, hus, hstop, by rw [htext]; exact hlength⟩

/-- An expression that is printed and read again is the same, up to origins.  There are limits to
how many digits an integer has and how deep brackets nest. -/
theorem read_source {σ V : Type} (h : c.Plain) (hdigits : c.isDisplayable = true)
    (hbrackets : c.bracketDepth ≤ Source.maxBrackets) (I : Evaluator σ V) (lines : List String) :
    ∃ text e c', c.source = .ok text ∧ Source.readExpression text.toList = some e ∧
      lowerExpr (I.context lines []) e = .ok c' ∧ c'.same c = true ∧ c'.display = c.display := by
  obtain ⟨text, us, stop, hsource, htokens, hus, hstop, hlength⟩ :=
    exists_tokens_source h hdigits hbrackets
  have hnewline : Source.nextKind [stop] = some .newline := congrArg some hstop
  obtain ⟨e, ⟨c', hc', hsame, hdisplay⟩, hread⟩ :=
    (reads lines h).2 (text.toList.length + 1) (some .newline)
    (by omega) ⟨_, by simp [closers], rfl⟩ us [stop] hus hnewline
  refine ⟨text, e, c', hsource, ?_, hc', hsame, hdisplay⟩
  obtain ⟨u, us, rfl⟩ : ∃ u us', us = u :: us' := by
    obtain ⟨k, ks, hk, -⟩ := exists_kinds_eq h
    rw [hk] at hus
    obtain ⟨u, us, rfl, -⟩ := map_eq_cons_iff.1 hus
    exact ⟨u, us, rfl⟩
  rw [cons_append] at hread
  have htupled := Expr.tupled_of_part hread (by rw [hnewline]; simp)
  have hdepth : (Nested.atDepth (text.toList.length + 2)).expression =
      Expr.expression (.atDepth (text.toList.length + 1)) := rfl
  rw [Source.readExpression, htokens]
  simp only [Option.bind_eq_bind, Option.bind_some, hdepth, cons_append, htupled]
  simp [Source.Token.isNewline, hstop]

/-- A condition in which operators of all levels meet. -/
def mixedCondition : Code :=
  .opOf none "or" [
    .opOf none "and" [
      .opOf none "<" [
        .opOf none "-" [.nameOf none "x"],
        .attrOf none (.item none (.nameOf none "a")
          (.callOf none "f" [.nameOf none "y", .constOf none (.bool true)])) "b"],
      .opOf none "not" [.nameOf none "y"]],
    .opOf none "*" [.opOf none "+" [.constOf none (.int 12), .nameOf none "y"], .nameOf none "x"]]

theorem read_source_mixedCondition :
    mixedCondition.source.toOption =
    some "(((- x) < a[f(y, True)].b) and (not y)) or ((12 + y) * x)" ∧
    ∃ text e c', mixedCondition.source = .ok text ∧ Source.readExpression text.toList = some e ∧
      lowerExpr (Static.evaluator.context [] []) e = .ok c' ∧ c'.same mixedCondition = true ∧
      c'.display = mixedCondition.display := by
  refine ⟨by decide +kernel, read_source ?_ (by decide +kernel)
    (by decide +kernel) Static.evaluator []⟩
  have hx : (Code.nameOf none "x").Plain := .name none (by decide +kernel)
  have hy : (Code.nameOf none "y").Plain := .name none (by decide +kernel)
  have ha : (Code.nameOf none "a").Plain := .name none (by decide +kernel)
  have hcall : (Code.callOf none "f" [.nameOf none "y", .constOf none (.bool true)]).Plain :=
    .call none (by decide +kernel)
      (forall_mem_cons.2 ⟨hy, forall_mem_singleton.2 (.bool none true)⟩)
  have hfield := Code.Plain.attr none (.item none ha hcall) nofun
    (by decide +kernel : Source.IsName "b")
  have hless := Code.Plain.binary none (s := "<") (k := .symbol .less) (by simp [Code.relations])
    (.unary none (s := "-") (k := .symbol .minus) (by simp [Code.signs]) hx) hfield
  have hnot := Code.Plain.unary none (s := "not") (k := .keyword .not_) (by simp [Code.signs]) hy
  have hproduct := Code.Plain.binary none (s := "*") (k := .symbol .star) (by simp [Code.relations])
    (.binary none (s := "+") (k := .symbol .plus) (by simp [Code.relations]) (.int none 12) hy) hx
  have hand :=
    Code.Plain.connected none (s := "and") (k := .keyword .and_) (by simp [Code.connectives])
    (forall_mem_cons.2 ⟨hless, forall_mem_singleton.2 hnot⟩)
  exact .connected none (s := "or") (k := .keyword .or_) (by simp [Code.connectives])
    (forall_mem_cons.2 ⟨hand, forall_mem_singleton.2 hproduct⟩)

end DataDiagram.Reading

namespace DataDiagram.Module

/-! ## Declarations -/

/-- Which variables of the module of a text are arrays, before and after it is printed and read
again. -/
def sizesReadBack (source : String) : Option (List Bool × List Bool) := do
  let m ← (Module.ofText source).toOption
  let m' ← (Module.ofText (← m.text.toOption)).toOption
  return (m.vars.map fun v => v.size.truth, m'.vars.map fun v => v.size.truth)

theorem exists_of_sizesReadBack {source : String} {sizes sizes' : List Bool}
    (h : sizesReadBack source = some (sizes, sizes')) : ∃ m text m',
      Module.ofText source = .ok m ∧ m.text = .ok text ∧ Module.ofText text = .ok m' ∧
      (m.vars.map fun v => v.size.truth) = sizes ∧
      (m'.vars.map fun v => v.size.truth) = sizes' := by
  obtain ⟨m, hm, h⟩ := Option.bind_eq_some_iff.1 h
  obtain ⟨text, htext, h⟩ := Option.bind_eq_some_iff.1 h
  obtain ⟨m', hm', h⟩ := Option.bind_eq_some_iff.1 h
  cases h
  exact ⟨m, text, m', eq_ok_of_toOption_eq_some hm, eq_ok_of_toOption_eq_some htext,
    eq_ok_of_toOption_eq_some hm', rfl, rfl⟩

/-- An array of two integers is read back as a variable that starts with a pair. -/
theorem sizes_not_read_back : ∃ m text m',
    Module.ofText "x: array[int] = [1, 2]\n" = .ok m ∧ m.text = .ok text ∧
      Module.ofText text = .ok m' ∧ m'.vars.map Var.size ≠ m.vars.map Var.size := by
  have hview : sizesReadBack "x: array[int] = [1, 2]\n" = some ([true], [false]) := by
    decide +kernel
  obtain ⟨m, text, m', hm, htext, hm', hsizes, hsizes'⟩ := exists_of_sizesReadBack hview
  refine ⟨m, text, m', hm, htext, hm', fun hsame => ?_⟩
  have htruth := congrArg (List.map Code.truth) hsame
  rw [List.map_map, List.map_map] at htruth
  exact absurd (hsizes'.symm.trans (htruth.trans hsizes)) (by decide)

end DataDiagram.Module
