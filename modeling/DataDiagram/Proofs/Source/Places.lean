import DataDiagram.Proofs.Source.Formatted
import DataDiagram.Source.Expression
import Mathlib.Data.List.Induction
/-!
# Places of a text

What is read from a text stands at the places of its tokens.  The expressions within a formatted
string are read from texts of their own; their tokens stand at places of the text around them.
-/

namespace DataDiagram

open List

/-- A position that is one of some places. -/
abbrev Position.Within (places : Position → Prop) (p : Position) : Prop := places p

namespace Source

/-- Places, and the tokens that stand there, with the tokens of the expressions in formatted
strings. -/
structure Places where
  position : Position → Prop
  token : Token → Prop
  position_of_token {t : Token} : token t → position t.position
  written {t : Token} {v : Datum} : token t → t.kind = .number v → Static.unwritable? v = none
  field {t : Token} {raw : Bool} {lead : Nat} {content : List Char} {pieces : List Piece}
    {f : Nat × List Char} {us : List Token} :
    token t → t.kind = .formatted raw lead content → Piece.ofContent raw content = some pieces →
    f ∈ Piece.fieldsOfAll pieces →
    tokensFrom (Expr.placeIn t.position lead content f.1) ('(' :: f.2 ++ [')']) = some us →
    ∀ u ∈ us, token u

instance Places.coePosition : Coe Places (Position → Prop) := ⟨Places.position⟩

variable {cs rest after expr : List Char} {start p q : Position} {kind : TokenKind} {c : Char}
  {t : Token}

/-! ## Expressions in formatted strings -/

/-- A quote that is in a text, but not in its last part. -/
theorem exists_eq_append_of_quote {r tail a more : List Char} {quote : Char}
    (hquote : isQuote quote = true)
    (htail : ∀ c ∈ tail, isQuote c = false) (h : r ++ tail = a ++ quote :: more) :
    ∃ m, r = a ++ quote :: m := by
  have hmem : quote ∉ tail := fun hmem => Bool.false_ne_true ((htail quote hmem).symm.trans hquote)
  rcases append_eq_append_iff.1 h with ⟨b, hb, hmore⟩ | ⟨b, hb, hmore⟩
  · exact absurd (hmore ▸ mem_append_right b (mem_cons_self ..)) hmem
  · cases b with
    | nil =>
      rw [nil_append] at hmore
      exact absurd (hmore ▸ mem_cons_self ..) hmem
    | cons d b =>
      obtain ⟨rfl, -⟩ := List.cons.inj hmore
      exact ⟨b, hb⟩

namespace TokenKind.Fits

theorem of_tail {r tail : List Char} (htail : ∀ c ∈ tail, isQuote c = false)
    (h : kind.Fits (r ++ tail)) : kind.Fits (r ++ after) := by
  cases kind with
  | formatted raw lead content =>
    obtain ⟨hreturn, opening, quote, more, hne, heq, hlead, hplain, hquote⟩ := h
    rw [← append_assoc] at heq
    obtain ⟨m, rfl⟩ := exists_eq_append_of_quote hquote htail heq
    exact ⟨hreturn, opening, quote, m ++ after, hne, by simp, hlead, hplain, hquote⟩
  | _ => exact h

theorem of_brace {r tail : List Char} (htail : ∀ c ∈ tail, isQuote c = false)
    (h : kind.Fits ('(' :: (r ++ tail))) : kind.Fits ('{' :: (r ++ after)) := by
  cases kind with
  | formatted raw lead content =>
    obtain ⟨hreturn, opening, quote, more, hne, heq, hlead, hplain, hquote⟩ := h
    cases opening with
    | nil => exact absurd rfl hne
    | cons o opening =>
      obtain ⟨rfl, htext⟩ := List.cons.inj heq
      simp only [append_eq, ← append_assoc] at htext
      obtain ⟨m, rfl⟩ := exists_eq_append_of_quote hquote htail htext
      refine ⟨hreturn, '{' :: opening, quote, m ++ after,
        cons_ne_nil _ _, by simp, hlead, ?_, hquote⟩
      exact forall_mem_cons.2 ⟨⟨by decide, by decide⟩, (forall_mem_cons.1 hplain).2⟩
  | _ => exact h

end TokenKind.Fits

/-- The places of an expression between parentheses are places of the text in which it stands
between a brace and a plain character. -/
theorem Stands.outer (hp : Stands start cs p ('{' :: (expr ++ c :: after))) (hc : Plain c)
    (hafter : after ≠ []) (hq : Stands p ('(' :: (expr ++ [')', '\n'])) q rest) (hne : rest ≠ []) :
    ∃ rest', Stands start cs q rest' ∧ rest' ≠ [] ∧
      ∀ kind : TokenKind, kind.Fits rest → kind.Fits rest' := by
  have hparen : ∀ c ∈ [')', '\n'], isQuote c = false := by decide
  have hbrace : positionAfter p ['{'] = positionAfter p ['('] := rfl
  have hexpr : Stands start cs (positionAfter p ['(']) (expr ++ c :: after) := hbrace ▸ hp.append
  obtain ⟨before, hbefore, rfl⟩ := hq
  cases before with
  | nil =>
    cases hbefore
    exact ⟨_, hp, cons_ne_nil _ _, fun kind => .of_brace hparen⟩
  | cons d before =>
    obtain ⟨rfl, hinner⟩ := List.cons.inj hbefore
    rw [← singleton_append, positionAfter_append]
    rcases append_eq_append_iff.1 hinner with ⟨r, rfl, rfl⟩ | ⟨r, rfl, htail⟩
    · rw [append_assoc] at hexpr
      exact ⟨_, hexpr.append, by simp, fun kind => .of_tail hparen⟩
    · match r, htail with
      | [], htail =>
        rw [append_nil]
        exact ⟨_, hexpr.append, cons_ne_nil _ _,
          fun kind h => .of_tail (r := []) hparen (htail ▸ h)⟩
      | [d], htail =>
        obtain ⟨rfl, hlast⟩ := List.cons.inj htail
        have hplain : positionAfter (positionAfter p ['(']) (expr ++ [')']) =
            positionAfter (positionAfter p ['(']) (expr ++ [c]) := by
          rw [positionAfter_append, positionAfter_append, hc.positionAfter_eq]
          rfl
        rw [hplain]
        rw [append_cons] at hexpr
        have hend : ∀ c ∈ ['\n'], isQuote c = false := by decide
        exact ⟨after, hexpr.append, hafter, fun kind h => .of_tail (r := []) hend (hlast ▸ h)⟩
      | [_, _], htail => exact absurd (List.cons.inj (List.cons.inj htail).2).2.symm hne

/-- The tokens of an expression in a formatted string stand in the text around it. -/
theorem Token.Within.outer (hp : Stands start cs p ('{' :: (expr ++ c :: after))) (hc : Plain c)
    (hafter : after ≠ []) (ht : t.Within p ('(' :: (expr ++ [')', '\n']))) : t.Within start cs := by
  cases ht with
  | here hq hne hfits =>
    obtain ⟨rest, hrest, hne', hfits'⟩ := hp.outer hc hafter hq hne
    exact .here hrest hne' (hfits' _ hfits)
  | blockEnd hq hne =>
    obtain ⟨rest, hrest, hne', -⟩ := hp.outer hc hafter hq hne
    exact .blockEnd hrest hne'

/-! ## The places of a text -/

theorem Stands.lineStart (h : Stands ⟨1, 0⟩ cs p rest) (hne : rest ≠ []) :
    ∃ rest, Stands ⟨1, 0⟩ cs ⟨p.line, 0⟩ rest ∧ rest ≠ [] := by
  obtain ⟨before, hbefore, rfl⟩ := h
  induction before using List.reverseRecOn generalizing rest with
  | nil => exact ⟨rest, ⟨[], hbefore, rfl⟩, hne⟩
  | append_singleton before c ih =>
    by_cases hc : c = '\n'
    · have hstart :
          positionAfter ⟨1, 0⟩ (before ++ [c]) = ⟨(positionAfter ⟨1, 0⟩ before).line + 1, 0⟩ := by
        rw [positionAfter_append, hc]
        rfl
      rw [hstart]
      exact ⟨rest, ⟨before ++ [c], hbefore, hstart⟩, hne⟩
    · have hline :
          (positionAfter ⟨1, 0⟩ (before ++ [c])).line = (positionAfter ⟨1, 0⟩ before).line := by
        rw [positionAfter_append]
        simp [positionAfter, hc]
      rw [hline]
      rw [append_assoc] at hbefore
      exact ih (cons_ne_nil _ _) hbefore

/-! ### Lines -/

/-- Whether a character ends a line. -/
def isLineEnd (c : Char) : Bool := c == '\n' || c == '\r'

theorem count_normalLines_cons (hrest : rest ≠ [])
    (hpair : ∀ more, c = '\r' → rest = '\n' :: more → False) :
    (normalLines (c :: rest)).count '\n' =
      (normalLines rest).count '\n' + if isLineEnd c then 1 else 0 := by
  have hempty : rest.isEmpty = false := by simpa using hrest
  rw [normalLines.eq_3 c rest hpair]
  simp only [hempty, Bool.false_and, Bool.false_eq_true, if_false, count_cons]
  by_cases hreturn : c = '\r' <;> simp [isLineEnd, hreturn]

theorem count_normalLines_singleton (c : Char) : (normalLines [c]).count '\n' = 1 := by
  rw [normalLines.eq_3 c [] nofun]
  by_cases hreturn : c = '\r'
  · simp [hreturn]
  · by_cases hend : c = '\n' <;> simp [hreturn, hend, normalLines]
/-- A text is cut into as many lines as it has ends of lines, or more. -/
theorem count_normalLines_le_length_linesFrom (current : List Char) (hne : cs ≠ []) :
    (normalLines cs).count '\n' ≤ (Text.linesFrom current cs).length := by
  induction current, cs using Text.linesFrom.induct with
  | case1 | case2 => exact absurd rfl hne
  | case3 current rest ih =>
    rw [normalLines, Text.linesFrom, count_cons_self, length_cons]
    split
    · simp
    · have hle := ih (by simp_all)
      omega
  | case4 current c rest hpair hends ih =>
    rw [Text.linesFrom.eq_3 _ _ _ hpair, if_pos hends, length_cons]
    by_cases hrest : rest = []
    · rw [hrest, count_normalLines_singleton]
      omega
    · have hle := ih hrest
      rw [count_normalLines_cons hrest hpair]
      split <;> omega
  | case5 current c rest hpair hends ih =>
    have hline : isLineEnd c = false := by
      refine Bool.eq_false_iff.2 fun hend => hends ?_
      obtain rfl | rfl : c = '\n' ∨ c = '\r' := by simpa [isLineEnd] using hend
      all_goals rfl
    rw [Text.linesFrom.eq_3 _ _ _ hpair, if_neg hends]
    by_cases hrest : rest = []
    · rw [hrest, count_normalLines_singleton]
      simp [Text.linesFrom]
    · rw [count_normalLines_cons hrest hpair, hline]
      exact ih hrest

theorem line_positionAfter (p : Position) : (positionAfter p cs).line = p.line + cs.count '\n' := by
  induction cs generalizing p with
  | nil => simp [positionAfter]
  | cons c cs ih =>
    have hstep : positionAfter p (c :: cs) =
        positionAfter (if c == '\n' then ⟨p.line + 1, 0⟩ else ⟨p.line, p.column + c.utf8Size⟩) cs :=
          rfl
    rw [hstep, ih, count_cons]
    split
    · simp
      omega
    · simp

theorem Stands.line_le (h : Stands ⟨1, 0⟩ (normalLines cs) p rest) (hne : rest ≠ []) :
    1 ≤ p.line ∧ p.line ≤ (normalLines cs).count '\n' := by
  obtain ⟨init, hinit⟩ := exists_normalLines_eq cs
  obtain ⟨before, hbefore, rfl⟩ := h
  have hlast : '\n' ∈ rest := by
    have hsuffix : ['\n'] <:+ normalLines cs := ⟨init, hinit.symm⟩
    have hone : ['\n'].length ≤ rest.length := length_pos_iff.2 hne
    exact (suffix_of_suffix_length_le hsuffix ⟨before, hbefore⟩ hone).subset (mem_singleton_self _)
  have hpos := count_pos_iff.2 hlast
  rw [line_positionAfter, ← hbefore, count_append]
  dsimp only
  omega

/-! ### Tokens -/

/-- The places of a text, with the tokens at them. -/
def Places.of (cs : List Char) : Places where
  position p := ∃ rest, Stands ⟨1, 0⟩ cs p rest ∧ rest ≠ []
  token := Token.Within ⟨1, 0⟩ cs
  position_of_token {t} ht := by
    cases ht with
    | here hp hne _ => exact ⟨_, hp, hne⟩
    | blockEnd hp hne => exact hp.lineStart hne
  written {t v} ht hkind := by
    cases ht with
    | here _ _ hfits =>
      cases hkind
      exact hfits
    | blockEnd => cases hkind
  field {t raw lead content pieces f us} ht hkind hpieces hf hus u hu := by
    cases ht with
    | blockEnd => cases hkind
    | @here _ p _ hp _ hfits =>
      cases hkind
      obtain ⟨hreturn, opening, quote, more, -, rfl, rfl, hplain, -⟩ := hfits
      obtain ⟨c, after, ⟨before, rfl⟩, hlength, hc⟩ := Piece.fieldOf_ofContent hpieces f hf
      have hplace : Expr.placeIn p opening.length (before ++ '{' :: (f.2 ++ c :: after)) f.1 =
          positionAfter (positionAfter p opening) before := by
        rw [positionAfter_of_plain hplain, ← hlength]
        simp [Expr.placeIn]
      have hcontent : Stands ⟨1, 0⟩ cs (positionAfter (positionAfter p opening) before)
          ('{' :: (f.2 ++ c :: (after ++ quote :: more))) := by
        have h := hp.append
        simp only [append_assoc, cons_append] at h
        exact h.append
      have hlines : '\r' ∉ '(' :: f.2 := by
        rw [mem_cons, not_or]
        exact ⟨by decide, fun hmem => hreturn (by simp [hmem])⟩
      have hwithin := within_tokensFrom hus u hu
      rw [normalLines_append_paren hlines, hplace] at hwithin
      exact hwithin.outer hcontent hc (by simp)

end Source

end DataDiagram
