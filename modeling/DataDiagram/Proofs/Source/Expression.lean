import DataDiagram.Source.Expression
/-!
# Steps of the expression reader

What the readers that the grammar is made of do at a token, and how an operand is read as an
expression of a looser level when no operator of that level follows.
-/

namespace DataDiagram.Source

open List

def nextKind (ts : List Token) : Option TokenKind := ts.head?.map Token.kind

namespace Reader

variable {ts : List Token} {α : Type} {t : Token} {kind : TokenKind}

theorem bind_eq {β : Type} {r : Reader α} {f : α → Reader β} {ts' : List Token} {a : α}
    (h : r ts = some (a, ts')) : (r >>= f) ts = f a ts' := by
  show (r ts).bind _ = _
  rw [h]
  rfl

theorem peek_eq (ts : List Token) : peek ts = some (nextKind ts, ts) := rfl

theorem here_eq (t : Token) (ts : List Token) : here (t :: ts) = some (t.position, t :: ts) := rfl

theorem remaining_eq (ts : List Token) : remaining ts = some (ts.length, ts) := rfl

theorem advance_eq (t : Token) (ts : List Token) : advance (t :: ts) = some ((), ts) := rfl

theorem eq_of_is {k l : TokenKind} (h : k.is l = true) : k = l := by
  unfold TokenKind.is at h
  split at h <;> simp_all

theorem isNext_eq_false (h : nextKind ts ≠ some kind) : isNext kind ts = some (false, ts) := by
  have hnot : (nextKind ts).any kind.is = false := by
    cases hnext : nextKind ts with
    | none => rfl
    | some k =>
      refine Bool.eq_false_iff.2 fun his => h ?_
      rw [hnext, eq_of_is his]
  rw [isNext, bind_eq (peek_eq ts), hnot]
  rfl

theorem isNext_eq_true (hkind : kind.is kind = true) (ht : t.kind = kind) (ts : List Token) :
    isNext kind (t :: ts) = some (true, t :: ts) := by
  have hnext : (nextKind (t :: ts)).any kind.is = true := by simpa [nextKind, ht] using hkind
  rw [isNext, bind_eq (peek_eq (t :: ts)), hnext]
  rfl

theorem skip_eq_false (h : nextKind ts ≠ some kind) : skip kind ts = some (false, ts) := by
  rw [skip, bind_eq (isNext_eq_false h)]
  rfl

theorem skip_eq_true (hkind : kind.is kind = true) (ht : t.kind = kind) (ts : List Token) :
    skip kind (t :: ts) = some (true, ts) := by
  rw [skip, bind_eq (isNext_eq_true hkind ht ts)]
  rfl

theorem symbol_eq {s : Symbol} (ht : t.kind = .symbol s) (ts : List Token) :
    symbol s (t :: ts) = some ((), ts) := by
  have hself : (TokenKind.symbol s).is (.symbol s) = true := beq_self_eq_true s
  rw [symbol, expect, bind_eq (skip_eq_true hself ht ts)]
  rfl

theorem many_eq_nil {part : Reader (Option α)}
    (h : part ts = some (none, ts)) : many part ts = some ([], ts) := by
  rw [many, bind_eq (remaining_eq ts)]
  cases ts.length with
  | zero => rfl
  | succ fuel =>
    rw [manyUpTo, bind_eq h]
    rfl

end Reader

namespace Expr

open Reader

/-! ## Operators that group to the left -/

variable {t : Token} {ts : List Token} {o : BinaryOp} {n : Nested}

theorem leftGrouped_eq {op : Option TokenKind → Option BinaryOp} {operand : Reader Expr}
    {rest : List Token} {e : Expr} (h : operand (t :: ts) = some (e, rest)) :
    leftGrouped op operand (t :: ts) = leftOperands op operand t.position rest.length e rest := by
  rw [leftGrouped, bind_eq (here_eq t ts), bind_eq h,
    bind_eq (remaining_eq rest)]

theorem leftOperands_stop {op : Option TokenKind → Option BinaryOp} {operand : Reader Expr}
    {start : Position} {rest : List Token} (hop : op (nextKind rest) = none) (fuel : Nat)
    (e : Expr) :
    leftOperands op operand start fuel e rest = some (e, rest) := by
  cases fuel with
  | zero => rfl
  | succ fuel =>
    rw [leftOperands, bind_eq (peek_eq rest), hop]
    rfl

theorem leftOperands_next {op : Option TokenKind → Option BinaryOp} {operand : Reader Expr}
    {start : Position} {rest : List Token} {e right : Expr}
    (hop : op (some t.kind) = some o) (hright : operand ts = some (right, rest)) (fuel : Nat) :
    leftOperands op operand start (fuel + 1) e (t :: ts) =
      leftOperands op operand start fuel (binary start o e right) rest := by
  have hnext : op (nextKind (t :: ts)) = some o := hop
  rw [leftOperands, bind_eq (peek_eq (t :: ts)), hnext]
  simp only
  rw [bind_eq (advance_eq t ts), bind_eq hright]

theorem leftGrouped_of_operand {op : Option TokenKind → Option BinaryOp} {operand : Reader Expr}
    {rest : List Token} {e : Expr} (h : operand (t :: ts) = some (e, rest))
    (hop : op (nextKind rest) = none) : leftGrouped op operand (t :: ts) = some (e, rest) := by
  rw [leftGrouped_eq h, leftOperands_stop hop]

/-- Whether `ts` starts operands with operators between them, which are `e` so far when `rest`
follows. -/
def Grouped (op : Option TokenKind → Option BinaryOp) (operand : Reader Expr) (ts rest : List Token)
    (e : Expr) : Prop :=
  ∃ start fuel, rest.length ≤ fuel ∧
    leftGrouped op operand (ts ++ rest) = leftOperands op operand start fuel e rest

theorem Grouped.first {op : Option TokenKind → Option BinaryOp} {operand : Reader Expr}
    {rest : List Token} {e : Expr} (hts : ts ≠ []) (h : operand (ts ++ rest) = some (e, rest)) :
    Grouped op operand ts rest e := by
  cases ts with
  | nil => exact absurd rfl hts
  | cons t ts => exact ⟨t.position, rest.length, Nat.le_refl _, leftGrouped_eq h⟩

theorem Grouped.next {op : Option TokenKind → Option BinaryOp} {operand : Reader Expr}
    {us rest : List Token} {e right : Expr}
    (h : Grouped op operand ts (t :: (us ++ rest)) e) (hop : op (some t.kind) = some o)
    (hright : operand (us ++ rest) = some (right, rest)) :
    ∃ start, Grouped op operand (ts ++ t :: us) rest (binary start o e right) := by
  obtain ⟨start, fuel, hfuel, hgrouped⟩ := h
  rw [length_cons, length_append] at hfuel
  obtain ⟨fuel, rfl⟩ : ∃ n, fuel = n + 1 := ⟨fuel - 1, by omega⟩
  refine ⟨start, start, fuel, by omega, ?_⟩
  rw [append_assoc, cons_append, hgrouped, leftOperands_next hop hright]

theorem Grouped.stop {op : Option TokenKind → Option BinaryOp} {operand : Reader Expr}
    {rest : List Token} {e : Expr} (h : Grouped op operand ts rest e)
    (hop : op (nextKind rest) = none) : leftGrouped op operand (ts ++ rest) = some (e, rest) := by
  obtain ⟨start, fuel, -, hgrouped⟩ := h
  rw [hgrouped, leftOperands_stop hop]

/-! ## Looser levels -/

/-- The tokens that can follow an expression. -/
def closers : List TokenKind :=
  [.symbol .closeParen, .newline, .symbol .closeBracket, .symbol .comma, .symbol .colon,
    .symbol .equals,
   .symbol .plusEquals, .symbol .minusEquals]

def connectives : List TokenKind := [.keyword .and_, .keyword .or_]

def comparisons : List TokenKind :=
  [.symbol .equal, .symbol .notEqual, .symbol .less, .symbol .lessEqual, .symbol .greater,
   .symbol .greaterEqual]

def Follows (kinds : List TokenKind) (next : Option TokenKind) : Prop := ∃ k ∈ kinds, next = some k

theorem Follows.ne {kinds : List TokenKind} {next : Option TokenKind} (h : Follows kinds next)
    {kind : TokenKind} (hkind : kind ∉ kinds) : next ≠ some kind := by
  obtain ⟨k, hk, rfl⟩ := h
  exact fun heq => hkind (Option.some.inj heq ▸ hk)

theorem Follows.append_left {kinds : List TokenKind} {next : Option TokenKind}
    (h : Follows kinds next) (others : List TokenKind) : Follows (others ++ kinds) next := by
  obtain ⟨k, hk, hnext⟩ := h
  exact ⟨k, mem_append_right others hk, hnext⟩

theorem bitwiseOr_of_sum {rest : List Token} {e : Expr}
    (h : leftGrouped sumOp (leftGrouped productOp (factor n)) (t :: ts) = some (e, rest))
    (hrest : Follows (comparisons ++ (connectives ++ closers)) (nextKind rest)) :
    bitwiseOr n (t :: ts) = some (e, rest) := by
  have hstop : shiftOp (nextKind rest) = none ∧ bitAndOp (nextKind rest) = none ∧
      bitXorOp (nextKind rest) = none ∧ bitOrOp (nextKind rest) = none := by
    obtain ⟨k, hk, hnext⟩ := hrest
    rw [hnext]
    simp only [comparisons, connectives, closers, cons_append, nil_append, mem_cons,
      not_mem_nil, or_false] at hk
    rcases hk
      with rfl | rfl | rfl | rfl | rfl | rfl | rfl | rfl | rfl | rfl | rfl | rfl | rfl | rfl |
      rfl | rfl <;> exact ⟨rfl, rfl, rfl, rfl⟩
  have hshift := leftGrouped_of_operand h hstop.1
  have hand := leftGrouped_of_operand hshift hstop.2.1
  have hxor := leftGrouped_of_operand hand hstop.2.2.1
  exact leftGrouped_of_operand hxor hstop.2.2.2

theorem compareOp_eq_none {rest : List Token}
    (hrest : Follows (connectives ++ closers) (nextKind rest)) :
    compareOp rest = some (none, rest) := by
  obtain ⟨k, hk, hnext⟩ := hrest
  rw [compareOp, bind_eq (peek_eq rest), hnext]
  simp only [connectives, closers, cons_append, nil_append, mem_cons, not_mem_nil,
    or_false] at hk
  rcases hk with rfl | rfl | rfl | rfl | rfl | rfl | rfl | rfl | rfl | rfl <;> rfl

theorem comparison_of_bitwiseOr {rest : List Token} {e : Expr}
    (h : bitwiseOr n (t :: ts) = some (e, rest))
    (hrest : Follows (connectives ++ closers) (nextKind rest)) :
    comparison n (t :: ts) = some (e, rest) := by
  rw [comparison, bind_eq (here_eq t ts), bind_eq h,
    bind_eq (many_eq_nil (by rw [bind_eq (compareOp_eq_none hrest)]; rfl))]
  rfl

theorem inversion_of_comparison {rest : List Token} {e : Expr}
    (ht : t.kind ≠ .keyword .not_) (h : comparison n (t :: ts) = some (e, rest)) :
    inversion n (t :: ts) = some (e, rest) := by
  have hnot : nextKind (t :: ts) ≠ some (.keyword .not_) := fun heq => ht (Option.some.inj heq)
  rw [inversion, bind_eq (here_eq t ts),
    bind_eq (skip_eq_false hnot)]
  exact h

theorem connected_of_operand {op : BoolOp} {k : Keyword} {operand : Reader Expr}
    {rest : List Token} {e : Expr} (h : operand (t :: ts) = some (e, rest))
    (hrest : nextKind rest ≠ some (.keyword k)) :
    connected op k operand (t :: ts) = some (e, rest) := by
  have hnone := skip_eq_false hrest
  rw [connected, bind_eq (here_eq t ts), bind_eq h,
    bind_eq (many_eq_nil (by rw [optionalAfter, bind_eq hnone]; rfl))]
  rfl

theorem expression_of_disjunction {rest : List Token} {e : Expr}
    (ht : t.kind ≠ .keyword .lambda_) (h : disjunction n (t :: ts) = some (e, rest))
    (hrest : Follows closers (nextKind rest)) : expression n (t :: ts) = some (e, rest) := by
  have hlambda : nextKind (t :: ts) ≠ some (.keyword .lambda_) :=
    fun heq => ht (Option.some.inj heq)
  have hnot : nextKind rest ≠ some (.keyword .if_) := hrest.ne (by simp [closers])
  have hif := skip_eq_false hnot
  rw [expression, bind_eq (isNext_eq_false hlambda)]
  simp only [Bool.false_eq_true, if_false]
  rw [bind_eq (here_eq t ts), bind_eq h, bind_eq hif]
  rfl

/-- A sum that stands alone in parentheses or on a line is an expression. -/
theorem expression_of_sum {rest : List Token} {e : Expr}
    (hnot : t.kind ≠ .keyword .not_) (hlambda : t.kind ≠ .keyword .lambda_)
    (h : leftGrouped sumOp (leftGrouped productOp (factor n)) (t :: ts) = some (e, rest))
    (hrest : Follows closers (nextKind rest)) : expression n (t :: ts) = some (e, rest) := by
  have hconnective := hrest.append_left connectives
  have hinversion := inversion_of_comparison hnot
    (comparison_of_bitwiseOr (bitwiseOr_of_sum h (hconnective.append_left comparisons)) hconnective)
  exact expression_of_disjunction hlambda
    (connected_of_operand (connected_of_operand hinversion (hrest.ne (by simp [closers])))
      (hrest.ne (by simp [closers]))) hrest

theorem tupled_of_part {part : Reader Expr} {rest : List Token} {e : Expr}
    (h : part (t :: ts) = some (e, rest)) (hrest : nextKind rest ≠ some (.symbol .comma)) :
    tupled part (t :: ts) = some (e, rest) := by
  have hcomma := skip_eq_false hrest
  have hparts : commaSeparated part noMore (t :: ts) = some (([e], false), rest) := by
    rw [commaSeparated, bind_eq (remaining_eq (t :: ts)),
      length_cons, commaSeparatedUpTo, bind_eq h, bind_eq hcomma]
    rfl
  rw [tupled, bind_eq (here_eq t ts), bind_eq hparts]
  rfl

/-! ## Tighter levels -/

/-- Whether what follows an atom is no field, no call, no element and no power. -/
def Complete (rest : List Token) : Prop :=
  ∀ s ∈ [Symbol.doubleStar, .dot, .openParen, .openBracket], nextKind rest ≠ some (.symbol s)

theorem trailers_stop {start : Position} {rest : List Token} (hrest : Complete rest)
    (fuel : Nat) (e : Expr) : trailers n start fuel e rest = some (e, rest) := by
  cases fuel with
  | zero => rfl
  | succ fuel =>
    rw [trailers, bind_eq (peek_eq rest)]
    have hne (s : Symbol) (hs : s ∈ [Symbol.doubleStar, .dot, .openParen, .openBracket]) :=
      hrest s hs
    generalize nextKind rest = next at hne ⊢
    split
    · exact absurd rfl (hne .dot (by decide))
    · exact absurd rfl (hne .openParen (by decide))
    · exact absurd rfl (hne .openBracket (by decide))
    · rfl

theorem factor_of_primary {rest : List Token} {e : Expr}
    (ht : t.kind ≠ .keyword .await_) (hop : unaryOp (some t.kind) = none)
    (h : primary n (t :: ts) = some (e, rest))
    (hrest : nextKind rest ≠ some (.symbol .doubleStar)) :
    factor n (t :: ts) = some (e, rest) := by
  have hawait : nextKind (t :: ts) ≠ some (.keyword .await_) := fun heq => ht (Option.some.inj heq)
  have hprimary : awaitPrimary n (t :: ts) = some (e, rest) := by
    rw [awaitPrimary, bind_eq (here_eq t ts), bind_eq (skip_eq_false hawait)]
    exact h
  have hnext : unaryOp (nextKind (t :: ts)) = none := hop
  rw [factor, bind_eq (here_eq t ts), bind_eq (peek_eq (t :: ts)), hnext]
  simp only
  rw [bind_eq hprimary, bind_eq (skip_eq_false hrest)]
  rfl

theorem atom_of_number {v : Datum} (ht : t.kind = .number v)
    (ts : List Token) : atom n (t :: ts) = some (constant (some t.position) v, ts) := by
  have hnext : nextKind (t :: ts) = some (.number v) := congrArg some ht
  rw [atom, bind_eq (here_eq t ts), bind_eq (peek_eq _), hnext]
  rfl

theorem atom_of_name {id : String} (ht : t.kind = .name id)
    (ts : List Token) : atom n (t :: ts) = some (name t.position id .load, ts) := by
  have hnext : nextKind (t :: ts) = some (.name id) := congrArg some ht
  rw [atom, bind_eq (here_eq t ts), bind_eq (peek_eq _), hnext]
  rfl

theorem atom_of_parenthesised (ht : t.kind = .symbol .openParen)
    (ts : List Token) : atom n (t :: ts) = parenthesised n (t :: ts) := by
  have hnext : nextKind (t :: ts) = some (.symbol .openParen) := congrArg some ht
  rw [atom, bind_eq (here_eq t ts), bind_eq (peek_eq _), hnext]

theorem atNamed_eq_false (hsecond : nextKind ts ≠ some (.symbol .walrus)) :
    atNamed (t :: ts) = some (false, t :: ts) := by
  have hpeek : peekSecond (t :: ts) = some (nextKind ts, t :: ts) := by
    cases ts <;> rfl
  rw [atNamed, bind_eq (peek_eq _), bind_eq hpeek]
  generalize nextKind (t :: ts) = first
  generalize nextKind ts = second at hsecond ⊢
  split
  · exact absurd rfl hsecond
  · rfl

theorem namedExpression_of_expression {rest : List Token} {e : Expr}
    (hsecond : nextKind ts ≠ some (.symbol .walrus)) (h : n.expression (t :: ts) = some (e, rest)) :
    namedExpression n (t :: ts) = some (e, rest) := by
  rw [namedExpression, bind_eq (atNamed_eq_false hsecond)]
  exact h

theorem starNamed_of_expression {rest : List Token} {e : Expr}
    (hstar : t.kind ≠ .symbol .star) (hsecond : nextKind ts ≠ some (.symbol .walrus))
    (h : n.expression (t :: ts) = some (e, rest)) : starNamed n (t :: ts) = some (e, rest) := by
  have hstar' : nextKind (t :: ts) ≠ some (.symbol .star) := fun heq => hstar (Option.some.inj heq)
  rw [starNamed, bind_eq (isNext_eq_false hstar')]
  exact namedExpression_of_expression hsecond h

/-- A single expression in parentheses is itself. -/
theorem parenthesised_eq {left right : Token} {rest : List Token} {e : Expr}
    (hleft : left.kind = .symbol .openParen) (hright : right.kind = .symbol .closeParen)
    (hclose : t.kind ≠ .symbol .closeParen) (hstar : t.kind ≠ .symbol .star)
    (hyield : t.kind ≠ .keyword .yield_) (hsecond : nextKind ts ≠ some (.symbol .walrus))
    (h : n.expression (t :: ts) = some (e, right :: rest)) (he : e.isStarred = false) :
    parenthesised n (left :: t :: ts) = some (e, rest) := by
  have hclose' : nextKind (t :: ts) ≠ some (.symbol .closeParen) :=
    fun heq => hclose (Option.some.inj heq)
  have hyield' : nextKind (t :: ts) ≠ some (.keyword .yield_) :=
    fun heq => hyield (Option.some.inj heq)
  have hrest (kind : TokenKind) (hkind : kind ≠ .symbol .closeParen) :
      nextKind (right :: rest) ≠ some kind :=
    fun heq => hkind (hright ▸ (Option.some.inj heq).symm)
  have hclause : atClause (right :: rest) = some (false, right :: rest) := by
    rw [atClause, bind_eq (isNext_eq_false (hrest _ (by simp))),
      bind_eq (isNext_eq_false (hrest _ (by simp)))]
    rfl
  have hcomma := isNext_eq_false (hrest (.symbol .comma) (by simp))
  rw [parenthesised, bind_eq (here_eq left _), bind_eq (symbol_eq hleft _),
    bind_eq (skip_eq_false hclose')]
  simp only [Bool.false_eq_true, if_false]
  rw [bind_eq (isNext_eq_false hyield')]
  simp only [Bool.false_eq_true, if_false]
  rw [bind_eq (starNamed_of_expression hstar hsecond h), bind_eq hclause]
  simp only [Bool.false_and, Bool.false_eq_true, if_false]
  rw [bind_eq hcomma]
  simp only [Bool.false_eq_true, if_false]
  rw [bind_eq (symbol_eq hright rest), he]
  rfl

end Expr

end DataDiagram.Source
