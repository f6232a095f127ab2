import DataDiagram.Proofs.Source.Expression
import DataDiagram.Source.Statement
import Mathlib.Data.List.Forall2
/-!
# Readers and the tokens that they take

What a reader makes of tokens depends on their kinds and on the token that follows them.  Readers
are put together as the grammar does it, up to the expressions that have one operator with operands
that are bracketed or have none.
-/

namespace DataDiagram.Source

open List

namespace Reader

/-- Whether a reader takes tokens of some kinds when `next` follows, with an outcome of which `P`
holds. -/
def Takes {α : Type} (r : Reader α) (ks : List TokenKind) (next : Option TokenKind) (P : α → Prop) :
    Prop :=
  ∀ ts rest, ts.map Token.kind = ks → nextKind rest = next → ∃ a, P a ∧ r (ts ++ rest) =
    some (a, rest)

theorem nextKind_append (ts rest : List Token) :
    nextKind (ts ++ rest) = (ts.map Token.kind).head?.or (nextKind rest) := by
  cases ts <;> rfl

namespace Takes

variable {α β γ : Type} {P : α → Prop} {Q : β → Prop} {r : Reader α} {f : α → Reader β}
  {k : TokenKind}
  {ks ls : List TokenKind} {next : Option TokenKind} {a : α} {s : Symbol}

theorem pure (h : P a) : Takes (Pure.pure a) [] next P := by
  intro ts rest hts _
  obtain rfl := map_eq_nil_iff.1 hts
  exact ⟨a, h, rfl⟩

theorem mono {P' : α → Prop} (h : Takes r ks next P) (hP : ∀ a, P a → P' a) :
    Takes r ks next P' := by
  intro ts rest hts hrest
  obtain ⟨a, ha, hra⟩ := h ts rest hts hrest
  exact ⟨a, hP a ha, hra⟩

theorem bind (hr : Takes r ks (ls.head?.or next) P) (hf : ∀ a, P a → Takes (f a) ls next Q) :
    Takes (r >>= f) (ks ++ ls) next Q := by
  intro ts rest hts hrest
  obtain ⟨us, vs, rfl, hus, hvs⟩ := map_eq_append_iff.1 hts
  obtain ⟨a, ha, hra⟩ := hr us (vs ++ rest) hus (by rw [nextKind_append, hvs, hrest])
  obtain ⟨b, hb, hfb⟩ := hf a ha vs rest hvs hrest
  exact ⟨b, hb, by rw [append_assoc, bind_eq hra, hfb]⟩

/-- Reads on after taking nothing. -/
theorem look (hr : Takes r [] (ls.head?.or next) P) (hf : ∀ a, P a → Takes (f a) ls next Q) :
    Takes (r >>= f) ls next Q := bind hr hf

theorem look_eq (hr : Takes r [] (ls.head?.or next) (· = a)) (hf : Takes (f a) ls next Q) :
    Takes (r >>= f) ls next Q := bind hr fun _ h => h ▸ hf

theorem step (hr : Takes r [k] (ls.head?.or next) (· = a)) (hf : Takes (f a) ls next Q) :
    Takes (r >>= f) (k :: ls) next Q := bind hr fun _ h => h ▸ hf

theorem last (hr : Takes r ks next P) (hf : ∀ a, P a → Takes (f a) [] next Q) :
    Takes (r >>= f) ks next Q := by
  rw [← append_nil ks]
  exact bind hr hf

theorem bind_pure {g : α → β} (hr : Takes r ks next P) (h : ∀ a, P a → Q (g a)) :
    Takes (r >>= fun a => Pure.pure (g a)) ks next Q := last hr fun a ha => pure (h a ha)

/-- A reader that does the same as another one at the tokens in question. -/
theorem lift {r' : Reader α} (h : Takes r (k :: ks) next P)
    (hlift : ∀ t ts rest a, t.kind = k → ts.map Token.kind = ks → nextKind rest = next → P a →
      r (t :: (ts ++ rest)) = some (a, rest) → r' (t :: (ts ++ rest)) = some (a, rest)) :
    Takes r' (k :: ks) next P := by
  intro ts rest hts hrest
  obtain ⟨a, ha, hra⟩ := h ts rest hts hrest
  obtain ⟨t, ts, rfl, ht, hts⟩ := map_eq_cons_iff.1 hts
  exact ⟨a, ha, hlift t ts rest a ht hts hrest ha hra⟩

/-! ### Single tokens -/

theorem of_eq_cons (h : ∀ t rest, t.kind = k → nextKind rest = next → r (t :: rest) =
      some (a, rest)) :
    Takes r [k] next (· = a) := by
  intro ts rest hts hrest
  obtain ⟨t, rfl, ht⟩ := map_eq_singleton_iff.1 hts
  exact ⟨a, rfl, h t rest ht hrest⟩

theorem of_eq_nil (h : ∀ rest, nextKind rest = next → r rest = some (a, rest)) :
    Takes r [] next (· = a) := by
  intro ts rest hts hrest
  obtain rfl := map_eq_nil_iff.1 hts
  exact ⟨a, rfl, h rest hrest⟩

theorem peek : Takes peek [] next (· = next) := of_eq_nil fun rest h => by rw [peek_eq, h]

theorem here : Takes here [] (some k) fun _ => True := by
  intro ts rest hts hrest
  obtain rfl := map_eq_nil_iff.1 hts
  cases rest with
  | nil => exact nomatch hrest
  | cons t rest => exact ⟨t.position, trivial, rfl⟩

theorem advance : Takes advance [k] next (· = ()) := of_eq_cons fun t rest _ _ => advance_eq t rest

theorem isNext_false (h : next ≠ some k) : Takes (isNext k) [] next (· = false) :=
  of_eq_nil fun _ hrest => isNext_eq_false (hrest ▸ h)

theorem skip_false (h : next ≠ some k) : Takes (skip k) [] next (· = false) :=
  of_eq_nil fun _ hrest => skip_eq_false (hrest ▸ h)

theorem skip_true (hk : k.is k = true) : Takes (skip k) [k] next (· = true) :=
  of_eq_cons fun _ rest ht _ => skip_eq_true hk ht rest

theorem skipSymbol_true (s : Symbol) : Takes (skipSymbol s) [.symbol s] next (· = true) :=
  skip_true (beq_self_eq_true s)

theorem skipKeyword_true (k : Keyword) : Takes (skipKeyword k) [.keyword k] next (· = true) :=
  skip_true (beq_self_eq_true k)

theorem symbol (s : Symbol) : Takes (symbol s) [.symbol s] next (· = ()) :=
  of_eq_cons fun _ rest ht _ => symbol_eq ht rest

theorem word (id : String) : Takes word [.name id] next (· = id) := by
  refine of_eq_cons fun t rest ht _ => ?_
  have hnext : nextKind (t :: rest) = some (.name id) := congrArg some ht
  rw [Reader.word, bind_eq (peek_eq _), hnext]
  rfl

theorem optionalAfter_none {mark : Reader Bool} (h : Takes mark [] next (· = false)) :
    Takes (optionalAfter mark r) [] next (· = none) := look_eq h (pure rfl)

/-! ### Several parts -/

variable {R : γ → α → Prop} {kinds : γ → List TokenKind} {cs : List γ}

theorem length_le_flatMap (h : ∀ c ∈ cs, kinds c ≠ []) : cs.length ≤ (cs.flatMap kinds).length := by
  induction cs with
  | nil => exact Nat.le_refl 0
  | cons c cs ih =>
    rw [forall_mem_cons] at h
    have hpos := length_pos_iff.2 h.1
    have hle := ih h.2
    rw [flatMap_cons, length_append, length_cons]
    omega

/-- The token after a part is the first one of the next part, or the one that follows all parts. -/
theorem ok_head {Ok : Option TokenKind → Prop}
    (hok : ∀ c ∈ cs, ∃ k ks, kinds c = k :: ks ∧ Ok (some k))
    (hnext : Ok next) : Ok ((cs.flatMap kinds).head?.or next) := by
  cases cs with
  | nil => exact hnext
  | cons c cs =>
    obtain ⟨k, ks, hk, hkOk⟩ := hok c (mem_cons_self ..)
    rw [flatMap_cons, hk]
    exact hkOk

theorem manyUpTo {part : Reader (Option α)} {Ok : Option TokenKind → Prop}
    (hpart : ∀ c ∈ cs, ∀ next, Ok next → Takes part (kinds c) next fun o => ∃ a, o = some a ∧ R c a)
    (hok : ∀ c ∈ cs.tail, ∃ k ks, kinds c = k :: ks ∧ Ok (some k)) (hnext : Ok next)
    (hstop : Takes part [] next (· = none)) {fuel : Nat} (hfuel : cs.length ≤ fuel) :
    Takes (manyUpTo part fuel) (cs.flatMap kinds) next (List.Forall₂ R cs) := by
  induction cs generalizing fuel with
  | nil =>
    cases fuel with
    | zero => exact pure .nil
    | succ fuel => exact look_eq hstop (pure .nil)
  | cons c cs ih =>
    rw [forall_mem_cons] at hpart
    rw [length_cons] at hfuel
    obtain ⟨fuel, rfl⟩ : ∃ n, fuel = n + 1 := ⟨fuel - 1, by omega⟩
    rw [flatMap_cons]
    refine bind (hpart.1 _ (ok_head hok hnext)) ?_
    rintro _ ⟨a, rfl, ha⟩
    have hmore : Takes (Reader.manyUpTo part fuel) (cs.flatMap kinds) next (List.Forall₂ R cs) :=
      ih hpart.2 (fun c hc => hok c (mem_of_mem_tail hc)) (by omega)
    exact bind_pure hmore fun as has => .cons ha has

theorem many {part : Reader (Option α)} {Ok : Option TokenKind → Prop}
    (hpart : ∀ c ∈ cs, ∀ next, Ok next → Takes part (kinds c) next fun o => ∃ a, o = some a ∧ R c a)
    (hne : ∀ c ∈ cs, kinds c ≠ []) (hok : ∀ c ∈ cs.tail, ∃ k ks, kinds c = k :: ks ∧ Ok (some k))
    (hnext : Ok next) (hstop : Takes part [] next (· = none)) :
    Takes (many part) (cs.flatMap kinds) next (List.Forall₂ R cs) := by
  intro ts rest hts hrest
  have hlength : cs.length ≤ (ts ++ rest).length := by
    have hle := length_le_flatMap hne
    rw [← hts, length_map] at hle
    rw [length_append]
    omega
  obtain ⟨as, has, hread⟩ := manyUpTo hpart hok hnext hstop hlength ts rest hts hrest
  exact ⟨as, has, by rw [Reader.many, bind_eq (remaining_eq _), hread]⟩

theorem many_one {part : Reader (Option α)}
    (hpart : Takes part (k :: ks) next fun o => ∃ a, o = some a ∧ P a)
    (hstop : Takes part [] next (· = none)) :
    Takes (Reader.many part) (k :: ks) next fun as => ∃ a, P a ∧ as = [a] := by
  have hmany : Takes (Reader.many part) ([()].flatMap fun _ => k :: ks) next
      (List.Forall₂ (fun _ => P) [()]) :=
    many (fun _ _ next' (hnext : next' = next) => hnext ▸ hpart) (by simp) (by simp) rfl hstop
  rw [flatMap_singleton] at hmany
  refine hmany.mono fun as has => ?_
  obtain ⟨a, _, ha, hnil, rfl⟩ := List.forall₂_cons_left_iff.1 has
  exact ⟨a, ha, by rw [List.forall₂_nil_left_iff.1 hnil]⟩

theorem forall₂_map {δ : Type} {g : δ → α} {S : γ → δ → Prop} {as : List α}
    (h : List.Forall₂ (fun c a => ∃ d, S c d ∧ a = g d) cs as) :
    ∃ ds, List.Forall₂ S cs ds ∧ as = ds.map g := by
  induction h with
  | nil => exact ⟨[], .nil, rfl⟩
  | cons hd _ ih =>
    obtain ⟨d, hd, rfl⟩ := hd
    obtain ⟨ds, hds, rfl⟩ := ih
    exact ⟨d :: ds, .cons hd hds, rfl⟩

theorem commaSeparated_single {part : Reader α} {stop : Reader Bool}
    (h : Takes part (k :: ks) next P) (hnext : next ≠ some (.symbol .comma)) :
    Takes (commaSeparated part stop) (k :: ks) next fun p => ∃ a, P a ∧ p = ([a], false) := by
  intro ts rest hts hrest
  obtain ⟨a, ha, hread⟩ := h ts rest hts hrest
  obtain ⟨t, ts, rfl, -⟩ := map_eq_cons_iff.1 hts
  refine ⟨_, ⟨a, ha, rfl⟩, ?_⟩
  rw [cons_append] at hread
  rw [Reader.commaSeparated, bind_eq (remaining_eq _), cons_append, length_cons,
    commaSeparatedUpTo, bind_eq hread, bind_eq (skip_eq_false (hrest ▸ hnext))]
  rfl

/-- Parts with commas between them. -/
def separated (kinds : γ → List TokenKind) (c : γ) (cs : List γ) : List TokenKind :=
  kinds c ++ cs.flatMap fun c => .symbol .comma :: kinds c

theorem commaSeparated {part : Reader α} {stop : Reader Bool} {c : γ}
    (hpart : ∀ x ∈ c :: cs, ∀ next', next' = some (.symbol .comma) ∨ next' = next →
      Takes part (kinds x) next' (R x))
    (hstop : ∀ x ∈ cs, ∃ k ks, kinds x = k :: ks ∧ Takes stop [] (some k) (· = false))
    (hc : kinds c ≠ []) (hnext : next ≠ some (.symbol .comma)) :
    Takes (commaSeparated part stop) (separated kinds c cs) next
      fun p => List.Forall₂ R (c :: cs) p.1 ∧ p.2 = false := by
  have hupTo (fuel : Nat) (hfuel : cs.length < fuel) :
      Takes (commaSeparatedUpTo part stop fuel) (separated kinds c cs) next
        fun p => List.Forall₂ R (c :: cs) p.1 ∧ p.2 = false := by
    induction cs generalizing c fuel with
    | nil =>
      obtain ⟨fuel, rfl⟩ : ∃ n, fuel = n + 1 := ⟨fuel - 1, by omega⟩
      refine bind (hpart c (mem_singleton_self c) _ (.inr rfl)) fun a ha => ?_
      exact look_eq (skip_false hnext) (pure ⟨.cons ha .nil, rfl⟩)
    | cons d cs ih =>
      rw [length_cons] at hfuel
      rw [forall_mem_cons] at hpart hstop
      obtain ⟨fuel, rfl⟩ : ∃ n, fuel = n + 1 := ⟨fuel - 1, by omega⟩
      obtain ⟨k, ks, hk, hnotStop⟩ := hstop.1
      have hmore := ih hpart.2 hstop.2 (by simp [hk]) fuel (by omega)
      refine bind (hpart.1 _ (.inl rfl)) fun a ha => ?_
      rw [flatMap_cons, cons_append]
      refine step (skipSymbol_true .comma) ?_
      refine look_eq (a := false) (by rw [hk]; exact hnotStop) ?_
      exact bind_pure hmore fun p hp => ⟨.cons ha hp.1, hp.2⟩
  intro ts rest hts hrest
  have hlength : cs.length < (ts ++ rest).length := by
    have hle : cs.length ≤ (cs.flatMap fun c => TokenKind.symbol .comma :: kinds c).length :=
      length_le_flatMap fun c _ => by simp
    have hpos := length_pos_iff.2 hc
    have hsum := congrArg List.length hts
    rw [length_map, separated, length_append] at hsum
    rw [length_append]
    omega
  obtain ⟨p, hp, hread⟩ := hupTo _ hlength ts rest hts hrest
  exact ⟨p, hp, by rw [Reader.commaSeparated, bind_eq (remaining_eq _), hread]⟩

end Takes

end Reader

namespace Expr

open Reader

variable {n : Nested} {k l m : TokenKind} {ks ls : List TokenKind} {next : Option TokenKind}
  {P Q : Expr → Prop}

/-! ## Starts -/

/-- The tokens that the expressions in question can start with. -/
def IsStart : TokenKind → Prop
  | .name _ | .number _ | .keyword .true_ | .keyword .false_ | .keyword .not_ | .symbol .openParen
  | .symbol .minus => True
  | _ => False

def IsOperandStart : TokenKind → Prop
  | .name _ | .number _ | .keyword .true_ | .keyword .false_ | .symbol .openParen => True
  | _ => False

theorem IsStart.ne (h : IsStart k) (hl : ¬IsStart l) : k ≠ l := fun heq => hl (heq ▸ h)

theorem IsOperandStart.isStart (h : IsOperandStart k) : IsStart k := by
  cases k with
  | keyword k => cases k <;> first | exact h | trivial
  | symbol s => cases s <;> first | exact h | trivial
  | name _ | number _ => trivial
  | _ => exact h

theorem IsOperandStart.ne (h : IsOperandStart k) (hl : ¬IsOperandStart l) : k ≠ l :=
  fun heq => hl (heq ▸ h)

theorem IsOperandStart.unaryOp_eq (h : IsOperandStart k) : unaryOp (some k) = none := by
  cases k with
  | symbol s => cases s <;> first | exact absurd h id | rfl
  | _ => rfl

/-! ## Fields, elements and calls -/

/-- Whether tokens are read as an atom with what has been said of it so far. -/
def Based (n : Nested) (ks : List TokenKind) (next : Option TokenKind) (P : Expr → Prop) : Prop :=
  ∀ ts rest, ts.map Token.kind = ks → nextKind rest = next →
    ∃ e, P e ∧ ∃ start fuel, rest.length ≤ fuel ∧
      primary n (ts ++ rest) = trailers n start fuel e rest

theorem Based.of_atom (h : Takes (atom n) (k :: ks) next P) : Based n (k :: ks) next P := by
  intro ts rest hts hrest
  obtain ⟨e, he, hread⟩ := h ts rest hts hrest
  obtain ⟨t, ts, rfl, -⟩ := map_eq_cons_iff.1 hts
  refine ⟨e, he, t.position, rest.length, Nat.le_refl _, ?_⟩
  rw [cons_append] at hread ⊢
  rw [primary, bind_eq (here_eq t _), bind_eq hread, bind_eq (remaining_eq rest)]

theorem Based.mono (h : Based n ks next P) (hPQ : ∀ e, P e → Q e) : Based n ks next Q := by
  intro ts rest hts hrest
  obtain ⟨e, he, hread⟩ := h ts rest hts hrest
  exact ⟨e, hPQ e he, hread⟩

/-- What follows an atom adds to it. -/
theorem Based.trailer {R : Position → Expr → Expr → Prop} (h : Based n ks (some k) P)
    (hstep : ∀ start e fuel ts rest, P e → ts.map Token.kind = k :: ls → nextKind rest = next →
      ∃ e', R start e e' ∧
        trailers n start (fuel + 1) e (ts ++ rest) = trailers n start fuel e' rest) :
    Based n (ks ++ k :: ls) next fun e' => ∃ start e, P e ∧ R start e e' := by
  intro ts rest hts hrest
  obtain ⟨us, vs, rfl, hus, hvs⟩ := map_eq_append_iff.1 hts
  obtain ⟨e, he, start, fuel, hfuel, hread⟩ :=
    h us (vs ++ rest) hus (by rw [nextKind_append, hvs]; rfl)
  have hlength := congrArg List.length hvs
  rw [length_map, length_cons] at hlength
  rw [length_append] at hfuel
  obtain ⟨fuel, rfl⟩ : ∃ j, fuel = j + 1 := ⟨fuel - 1, by omega⟩
  obtain ⟨e', he', hmore⟩ := hstep start e fuel vs rest he hvs hrest
  exact ⟨e', ⟨start, e, he, he'⟩, start, fuel, by omega, by rw [append_assoc, hread, hmore]⟩

theorem Based.field (h : Based n ks (some (.symbol .dot)) P) (a : String) :
    Based n (ks ++ [.symbol .dot, .name a]) next fun e' =>
    ∃ start e, P e ∧ e' = field start e a .load := by
  refine h.trailer fun start e fuel ts rest _ hts hrest => ⟨_, rfl, ?_⟩
  obtain ⟨t, us, rfl, ht, hus⟩ := map_eq_cons_iff.1 hts
  have hnext : nextKind (t :: us ++ rest) = some (.symbol .dot) := congrArg some ht
  obtain ⟨_, rfl, hword⟩ := Takes.word a us rest hus hrest
  rw [trailers, bind_eq (peek_eq _), hnext]
  simp only
  rw [cons_append, bind_eq (advance_eq t _), bind_eq hword]

theorem Based.item (h : Based n ks (some (.symbol .openBracket)) P)
    (hindex : Takes (slices n) ls (some (.symbol .closeBracket)) Q) :
    Based n (ks ++ .symbol .openBracket :: (ls ++ [.symbol .closeBracket])) next
      fun e' => ∃ start e, P e ∧ ∃ i, Q i ∧ e' = subscript start e i .load := by
  refine h.trailer fun start e fuel ts rest _ hts hrest => ?_
  obtain ⟨t, us, rfl, ht, hus⟩ := map_eq_cons_iff.1 hts
  obtain ⟨us, vs, rfl, hus, hvs⟩ := map_eq_append_iff.1 hus
  have hnext : nextKind (t :: (us ++ vs) ++ rest) = some (.symbol .openBracket) := congrArg some ht
  obtain ⟨i, hi, hread⟩ := hindex us (vs ++ rest) hus (by rw [nextKind_append, hvs]; rfl)
  obtain ⟨_, -, hclose⟩ := Takes.symbol .closeBracket vs rest hvs hrest
  refine ⟨_, ⟨i, hi, rfl⟩, ?_⟩
  rw [trailers, bind_eq (peek_eq _), hnext]
  simp only
  rw [cons_append, append_assoc, bind_eq (advance_eq t _), bind_eq hread, bind_eq hclose]

theorem Based.call {R : List Expr → Prop} (h : Based n ks (some (.symbol .openParen)) P)
    (hargs : Takes (callArguments n) (.symbol .openParen :: ls) next
      fun args => ∃ es, R es ∧ args = es.map .positional) :
    Based n (ks ++ .symbol .openParen :: ls) next
      fun e' => ∃ start e, P e ∧ ∃ es, R es ∧ e' = call start e es [] := by
  refine h.trailer fun start e fuel ts rest _ hts hrest => ?_
  obtain ⟨_, ⟨es, hes, rfl⟩, hread⟩ := hargs ts rest hts hrest
  have hnext : nextKind (ts ++ rest) = some (.symbol .openParen) := by
    rw [nextKind_append, hts]; rfl
  have hpositional : positionals (es.map .positional) = es := by
    rw [positionals, filterMap_map]
    exact filterMap_some
  refine ⟨_, ⟨es, hes, rfl⟩, ?_⟩
  rw [trailers, bind_eq (peek_eq _), hnext]
  simp only
  rw [bind_eq hread]
  simp only [hpositional, filterMap_map, Function.comp_def, filterMap_none]

theorem Based.takes (h : Based n ks next P)
    (hnext : ∀ s ∈ [Symbol.doubleStar, .dot, .openParen, .openBracket], next ≠ some (.symbol s)) :
    Takes (primary n) ks next P := by
  intro ts rest hts hrest
  obtain ⟨e, he, start, fuel, -, hread⟩ := h ts rest hts hrest
  exact ⟨e, he, by rw [hread, trailers_stop (fun s hs => hrest ▸ hnext s hs)]⟩

/-! ## Atoms -/

theorem takes_name (id : String) : Takes (atom n) [.name id] next fun e =>
      ∃ p, e = name p id .load := by
  intro ts rest hts _
  obtain ⟨t, rfl, ht⟩ := map_eq_singleton_iff.1 hts
  exact ⟨_, ⟨_, rfl⟩, atom_of_name ht rest⟩

theorem takes_number (v : Datum) :
    Takes (atom n) [.number v] next fun e => ∃ p, e = constant (some p) v := by
  intro ts rest hts _
  obtain ⟨t, rfl, ht⟩ := map_eq_singleton_iff.1 hts
  exact ⟨_, ⟨_, rfl⟩, atom_of_number ht rest⟩

theorem takes_bool (b : Bool) : Takes (atom n) [.keyword (if b then .true_ else .false_)] next
    fun e => ∃ p, e = constant (some p) (.bool b) := by
  intro ts rest hts _
  obtain ⟨t, rfl, ht⟩ := map_eq_singleton_iff.1 hts
  have hnext : nextKind (t :: rest) = some (.keyword (if b then .true_ else .false_)) :=
    congrArg some ht
  refine ⟨_, ⟨t.position, rfl⟩, ?_⟩
  rw [singleton_append, atom, bind_eq (here_eq t rest), bind_eq (peek_eq _), hnext]
  cases b <;> rfl

/-- What the second token is when the first one is taken off. -/
theorem nextKind_tail_ne {ts rest : List Token} (hts : ts.map Token.kind = ks) (hks : l ∉ ks)
    (hnext : nextKind rest ≠ some l) : nextKind (ts ++ rest) ≠ some l := by
  rw [nextKind_append, hts]
  cases ks with
  | nil => exact hnext
  | cons k ks => exact fun heq => hks (Option.some.inj heq ▸ mem_cons_self ..)

theorem takes_parens (h : Takes n.expression (k :: ks) (some (.symbol .closeParen)) P)
    (hk : IsStart k) (hwalrus : .symbol .walrus ∉ ks) (hP : ∀ e, P e → e.isStarred = false) :
    Takes (atom n) (.symbol .openParen :: (k :: ks ++ [.symbol .closeParen])) next P := by
  intro ts rest hts hrest
  obtain ⟨left, ts, rfl, hleft, hts⟩ := map_eq_cons_iff.1 hts
  obtain ⟨us, vs, rfl, hus, hvs⟩ := map_eq_append_iff.1 hts
  obtain ⟨right, rfl, hright⟩ := map_eq_singleton_iff.1 hvs
  obtain ⟨e, he, hread⟩ := h us (right :: rest) hus (congrArg some hright)
  obtain ⟨t, us, rfl, ht, hus⟩ := map_eq_cons_iff.1 hus
  have hstart {l : TokenKind} (hl : ¬IsStart l) : t.kind ≠ l := ht ▸ hk.ne hl
  have hsecond : nextKind (us ++ right :: rest) ≠ some (.symbol .walrus) :=
    nextKind_tail_ne hus hwalrus fun heq => by
      rw [nextKind, List.head?_cons, Option.map_some, hright] at heq
      cases heq
  refine ⟨e, he, ?_⟩
  have hparens :=
    parenthesised_eq hleft hright (hstart id) (hstart id) (hstart id) hsecond hread (hP e he)
  rw [cons_append, append_assoc, atom_of_parenthesised hleft]
  exact hparens

/-! ## Indices and arguments -/

theorem takes_namedExpression (h : Takes n.expression (k :: ks) next P)
    (hwalrus : .symbol .walrus ∉ ks)
    (hnext : next ≠ some (.symbol .walrus)) : Takes (namedExpression n) (k :: ks) next P :=
  h.lift fun _ _ _ _ _ hts hrest _ hread =>
    namedExpression_of_expression (nextKind_tail_ne hts hwalrus (hrest ▸ hnext)) hread

theorem takes_slices (h : Takes n.expression (k :: ks) (some (.symbol .closeBracket)) P)
    (hk : IsStart k) (hwalrus : .symbol .walrus ∉ ks) (hP : ∀ e, P e → e.isStarred = false) :
    Takes (slices n) (k :: ks) (some (.symbol .closeBracket)) P := by
  have hsymbol {s : Symbol} (hs : ¬IsStart (.symbol s)) : some k ≠ some (.symbol s) :=
    fun heq => hk.ne hs (Option.some.inj heq)
  have hitem : Takes (sliceItem n) (k :: ks) (some (.symbol .closeBracket)) P := by
    refine .look (.here (k := k)) fun _ _ => ?_
    refine .look_eq (a := false) (.isNext_false (hsymbol id)) ?_
    refine .look_eq (a := false) (.isNext_false (hsymbol id)) ?_
    refine h.lift fun t ts rest e ht hts hrest _ hread => ?_
    have hnamed := atNamed_eq_false (t := t) (nextKind_tail_ne hts hwalrus (by rw [hrest]; simp))
    have hcolon : atSymbol .colon rest = some (false, rest) :=
      isNext_eq_false (by rw [hrest]; simp)
    simp only [Bool.false_eq_true, if_false]
    rw [bind_eq hnamed]
    simp only [Bool.false_eq_true, if_false]
    rw [bind_eq hread, bind_eq hcolon]
    rfl
  refine .look (.here (k := k)) fun start _ => .last (.commaSeparated_single hitem (by simp)) ?_
  rintro _ ⟨e, he, rfl⟩
  simp only [hP e he, Bool.false_eq_true, if_false]
  exact .pure he

theorem takes_argument (h : Takes n.expression (k :: ks) next P) (hk : IsStart k)
    (hks : ∀ s ∈ [Symbol.walrus, .equals], .symbol s ∉ ks ∧ next ≠ some (.symbol s)) :
    Takes (argument n) (k :: ks) next fun a => ∃ e, P e ∧ a = .positional e := by
  have hsymbol {s : Symbol} (hs : ¬IsStart (.symbol s)) : some k ≠ some (.symbol s) :=
    fun heq => hk.ne hs (Option.some.inj heq)
  have hwalrus := hks .walrus (by decide)
  have hequals := hks .equals (by decide)
  refine .look (.here (k := k)) fun _ _ => ?_
  refine .look_eq (a := false) (.skip_false (hsymbol id)) ?_
  refine .look_eq (a := false) (.isNext_false (hsymbol id)) ?_
  have hnamed : Takes (do return Argument.positional (← namedExpression n)) (k :: ks) next
      fun a => ∃ e, P e ∧ a = .positional e :=
    .bind_pure (takes_namedExpression h hwalrus.1 hwalrus.2) fun e he => ⟨e, he, rfl⟩
  refine hnamed.lift fun t ts rest a _ hts hrest _ hread => ?_
  have hsecond := nextKind_tail_ne hts hequals.1 (hrest ▸ hequals.2)
  have hpeek :
      peekSecond (t :: (ts ++ rest)) = some (nextKind (ts ++ rest), t :: (ts ++ rest)) := by
    cases ts ++ rest <;> rfl
  simp only [Bool.false_eq_true, if_false]
  rw [bind_eq (peek_eq _), bind_eq hpeek]
  generalize nextKind (t :: (ts ++ rest)) = first
  generalize nextKind (ts ++ rest) = second at hsecond
  split
  · exact absurd rfl hsecond
  · exact hread

theorem orderly_positional (es : List Expr) : orderly false false (es.map .positional) = true := by
  induction es with
  | nil => rfl
  | cons e es ih => cases e <;> simp [orderly, ih]

theorem takes_callArguments_nil :
    Takes (callArguments n) [.symbol .openParen, .symbol .closeParen] next (· = []) := by
  refine .look (.here (k := .symbol .openParen)) fun _ _ => .step (.symbol .openParen) ?_
  exact .step (.skipSymbol_true .closeParen) (.pure rfl)

section Arguments

variable {γ : Type} {kinds : γ → List TokenKind} {R : γ → Expr → Prop} {c : γ} {cs : List γ}

/-- What stands after an argument. -/
def IsArgumentEnd (next : Option TokenKind) : Prop :=
  next = some (.symbol .comma) ∨ next = some (.symbol .closeParen)

theorem takes_positional (hls : ∃ k ks, ls = k :: ks ∧ IsStart k ∧
      ∀ s ∈ [Symbol.walrus, .equals], .symbol s ∉ ks)
    (h : ∀ next, Follows closers next → Takes n.expression ls next P) (hnext : IsArgumentEnd next) :
    Takes (argument n) ls next fun a => ∃ e, P e ∧ a = .positional e := by
  obtain ⟨k, ks, rfl, hstart, hks⟩ := hls
  have hread := h next (by rcases hnext with rfl | rfl <;> exact ⟨_, by simp [closers], rfl⟩)
  refine takes_argument hread hstart fun s hs => ⟨hks s hs, ?_⟩
  simp only [mem_cons, not_mem_nil, or_false] at hs
  rcases hs with rfl | rfl <;> rcases hnext with rfl | rfl <;> simp

theorem takes_atClause (hnext : IsArgumentEnd next) : Takes atClause [] next (· = false) := by
  refine .look_eq (a := false) (.isNext_false ?_)
    (.look_eq (a := false) (.isNext_false ?_) (.pure rfl))
  all_goals rcases hnext with rfl | rfl <;> simp

theorem isArgumentEnd_head? :
    IsArgumentEnd (((cs.flatMap fun c => TokenKind.symbol .comma :: kinds c) ++
      [TokenKind.symbol .closeParen]).head?.or next) := by
  cases cs with
  | nil => exact .inr rfl
  | cons c cs => exact .inl rfl

theorem takes_furtherArguments (hkinds : ∀ x ∈ cs, ∃ k ks, kinds x = k :: ks ∧ IsStart k)
    (h : ∀ x ∈ cs, ∀ next, IsArgumentEnd next →
      Takes (argument n) (kinds x) next fun a => ∃ e, R x e ∧ a = .positional e) :
    Takes (furtherParts (argument n) noArgument)
    (cs.flatMap fun c => TokenKind.symbol .comma :: kinds c)
      (some (.symbol .closeParen)) fun args => ∃ es, List.Forall₂ R cs es ∧
      args = es.map .positional := by
  cases cs with
  | nil => exact .look_eq (a := false) (.skip_false (by simp)) (.pure ⟨[], .nil, rfl⟩)
  | cons d cs =>
    have hstop : ∀ x ∈ d :: cs, ∃ k ks, kinds x = k :: ks ∧ Takes noArgument [] (some k)
        (· = false) := by
      intro x hx
      obtain ⟨k, ks, hk, hstart⟩ := hkinds x hx
      exact ⟨k, ks, hk, .isNext_false fun heq => hstart.ne id (Option.some.inj heq)⟩
    obtain ⟨l, ls, hl, hnotStop⟩ := hstop d (mem_cons_self ..)
    rw [forall_mem_cons] at hstop
    rw [flatMap_cons, cons_append]
    refine .step (.skipSymbol_true .comma) (.look_eq (a := false) (by rw [hl]; exact hnotStop) ?_)
    refine .bind_pure (Takes.commaSeparated h hstop.2 (by simp [hl]) (by simp)) ?_
    exact fun args hargs => Takes.forall₂_map hargs.1

theorem takes_callArguments (hkinds : ∀ x ∈ c :: cs, ∃ k ks, kinds x = k :: ks ∧ IsStart k ∧
      ∀ s ∈ [Symbol.walrus, .equals], .symbol s ∉ ks)
    (h : ∀ x ∈ c :: cs, ∀ next, Follows closers next → Takes n.expression (kinds x) next (R x)) :
    Takes (callArguments n)
      (.symbol .openParen :: (Takes.separated kinds c cs ++ [.symbol .closeParen])) next
      fun args => ∃ es, List.Forall₂ R (c :: cs) es ∧ args = es.map .positional := by
  have hargument : ∀ x ∈ c :: cs, ∀ next, IsArgumentEnd next →
      Takes (argument n) (kinds x) next fun a => ∃ e, R x e ∧ a = .positional e :=
    fun x hx _ hnext => takes_positional (hkinds x hx) (h x hx) hnext
  have hstarts : ∀ x ∈ c :: cs, ∃ k ks, kinds x = k :: ks ∧ IsStart k := by
    intro x hx
    obtain ⟨k, ks, hk, hstart, -⟩ := hkinds x hx
    exact ⟨k, ks, hk, hstart⟩
  obtain ⟨k, ks, hk, hstart⟩ := hstarts c (mem_cons_self ..)
  rw [forall_mem_cons] at hargument hstarts
  have hclose : some k ≠ some (.symbol .closeParen) := fun heq => hstart.ne id (Option.some.inj heq)
  refine .look (.here (k := .symbol .openParen)) fun start _ => .step (.symbol .openParen) ?_
  rw [Takes.separated, append_assoc]
  refine .look_eq (a := false) (.skip_false (by rw [hk]; exact hclose)) ?_
  refine .bind (hargument.1 _ isArgumentEnd_head?) ?_
  rintro _ ⟨e, he, rfl⟩
  refine .look_eq (takes_atClause isArgumentEnd_head?) ?_
  simp only [Bool.false_and, Bool.false_eq_true, if_false]
  refine .bind (takes_furtherArguments hstarts.2 hargument.2) ?_
  rintro _ ⟨es, hes, rfl⟩
  refine .step (.symbol .closeParen) ?_
  have horderly := orderly_positional (e :: es)
  rw [map_cons] at horderly
  simp only [horderly, if_true]
  exact .pure ⟨e :: es, .cons he hes, rfl⟩

end Arguments

/-! ## Operators -/

theorem takes_factor (h : Takes (primary n) (k :: ks) next P) (hk : IsOperandStart k)
    (hnext : next ≠ some (.symbol .doubleStar)) : Takes (factor n) (k :: ks) next P :=
  h.lift fun _ _ _ _ ht _ hrest _ hread =>
    factor_of_primary (ht ▸ hk.ne id) (ht ▸ hk.unaryOp_eq) hread (hrest ▸ hnext)

theorem takes_minus (h : Takes n.factor ks next P) : Takes (factor n) (.symbol .minus :: ks) next
    fun e => ∃ p a, P a ∧ e = unary p .minus a := by
  refine .look (.here (k := .symbol .minus)) fun p _ => .look_eq .peek ?_
  exact .step .advance (.bind_pure h fun a ha => ⟨p, a, ha, rfl⟩)

variable {op : Option TokenKind → Option BinaryOp} {operand : Reader Expr}

theorem takes_leftGrouped (h : Takes operand (k :: ks) next P) (hop : op next = none) :
    Takes (leftGrouped op operand) (k :: ks) next P :=
  h.lift fun _ _ _ _ _ _ hrest _ hread => leftGrouped_of_operand hread (hrest ▸ hop)

theorem takes_joined {o : BinaryOp}
    (ha : Takes operand (k :: ks) (some m) P) (hop : op (some m) = some o)
    (hb : Takes operand ls next Q)
    (hnext : op next = none) : Takes (leftGrouped op operand) (k :: ks ++ m :: ls) next
      fun e => ∃ p a b, P a ∧ Q b ∧ e = binary p o a b := by
  intro ts rest hts hrest
  obtain ⟨us, vs, rfl, hus, hvs⟩ := map_eq_append_iff.1 hts
  obtain ⟨t, vs, rfl, ht, hvs⟩ := map_eq_cons_iff.1 hvs
  obtain ⟨a, haP, hreadA⟩ := ha us (t :: (vs ++ rest)) hus (congrArg some ht)
  obtain ⟨b, hbQ, hreadB⟩ := hb vs rest hvs hrest
  have hfirst : Grouped op operand us (t :: (vs ++ rest)) a :=
    .first (by rintro rfl; simp at hus) hreadA
  obtain ⟨p, hjoined⟩ := hfirst.next (ht ▸ hop) hreadB
  exact ⟨_, ⟨p, a, b, haP, hbQ, rfl⟩, hjoined.stop (hrest ▸ hnext)⟩

/-- The readers of sums. -/
abbrev sum (n : Nested) : Reader Expr := leftGrouped sumOp (leftGrouped productOp (factor n))

theorem takes_bitwiseOr (h : Takes (sum n) (k :: ks) next P)
    (hnext : Follows (comparisons ++ (connectives ++ closers)) next) :
    Takes (bitwiseOr n) (k :: ks) next P :=
  h.lift fun _ _ _ _ _ _ hrest _ hread => bitwiseOr_of_sum hread (hrest ▸ hnext)

theorem takes_comparison (h : Takes (bitwiseOr n) (k :: ks) next P)
    (hnext : Follows (connectives ++ closers) next) : Takes (comparison n) (k :: ks) next P :=
  h.lift fun _ _ _ _ _ _ hrest _ hread => comparison_of_bitwiseOr hread (hrest ▸ hnext)

def comparisonOf : TokenKind → Option CompareOp
  | .symbol .equal => some .eq
  | .symbol .notEqual => some .notEq
  | .symbol .less => some .lt
  | .symbol .lessEqual => some .ltE
  | .symbol .greater => some .gt
  | .symbol .greaterEqual => some .gtE
  | _ => none

variable {o : CompareOp}

theorem takes_compareOp (h : comparisonOf m = some o) : Takes compareOp [m] next (· = some o) := by
  refine .look_eq .peek ?_
  unfold comparisonOf at h
  split at h <;> cases h <;> exact .step .advance (.pure rfl)

theorem takes_compared (ha : Takes (bitwiseOr n) (k :: ks) (some m) P)
    (hm : comparisonOf m = some o) (hb : Takes (bitwiseOr n) ls next Q)
    (hnext : Follows (connectives ++ closers) next) : Takes (comparison n) (k :: ks ++ m :: ls) next
      fun e => ∃ p a b, P a ∧ Q b ∧ e = compare p a [o] [b] := by
  refine .look (.here (k := k)) fun p _ => .bind ha fun a haP => ?_
  have hstop : Takes compareOp [] next (· = none) :=
    .of_eq_nil fun rest hrest => compareOp_eq_none (hrest ▸ hnext)
  refine .bind_pure (.many_one (P := fun x => ∃ b, Q b ∧ x = (o, b)) ?_ ?_) ?_
  · exact .step (takes_compareOp hm) (.bind_pure hb fun b hbQ => ⟨_, rfl, b, hbQ, rfl⟩)
  · exact .look_eq hstop (.pure rfl)
  · rintro _ ⟨_, ⟨b, hbQ, rfl⟩, rfl⟩
    exact ⟨p, a, b, haP, hbQ, rfl⟩

theorem takes_inversion (h : Takes (comparison n) (k :: ks) next P) (hk : k ≠ .keyword .not_) :
    Takes (inversion n) (k :: ks) next P :=
  h.lift fun _ _ _ _ ht _ _ _ hread => inversion_of_comparison (ht ▸ hk) hread

theorem takes_not (h : Takes n.inversion ks next P) :
    Takes (inversion n) (.keyword .not_ :: ks) next
    fun e => ∃ p a, P a ∧ e = unary p .logicalNot a := by
  refine .look (.here (k := .keyword .not_)) fun p _ => .step (.skipKeyword_true .not_) ?_
  exact .bind_pure h fun a ha => ⟨p, a, ha, rfl⟩

theorem takes_connected_one {o : BoolOp} {word : Keyword}
    (h : Takes operand (k :: ks) next P) (hnext : next ≠ some (.keyword word)) :
    Takes (connected o word operand) (k :: ks) next P :=
  h.lift fun _ _ _ _ _ _ hrest _ hread => connected_of_operand hread (hrest ▸ hnext)

theorem takes_connected {o : BoolOp} {word : Keyword} {γ : Type}
    {kinds : γ → List TokenKind} {R : γ → Expr → Prop} {c d : γ} {cs : List γ} (hc : kinds c ≠ [])
    (h : ∀ x ∈ c :: d :: cs, ∀ next', next' = some (.keyword word) ∨ next' = next →
      Takes operand (kinds x) next' (R x)) (hnext : next ≠ some (.keyword word)) :
    Takes (connected o word operand)
      (kinds c ++ (d :: cs).flatMap fun c => .keyword word :: kinds c) next
      fun e => ∃ p es, List.Forall₂ R (c :: d :: cs) es ∧ e = bool p o es := by
  rw [forall_mem_cons] at h
  have hmore : Takes (Reader.many (optionalAfter (skipKeyword word) operand))
      ((d :: cs).flatMap fun c => .keyword word :: kinds c) next (List.Forall₂ R (d :: cs)) :=
    Takes.many (fun x hx next' (hnext' : next' = some (.keyword word) ∨ next' = next) =>
        .step (.skipKeyword_true word)
          (.bind_pure (h.2 x hx next' hnext') fun e he => ⟨e, rfl, he⟩))
      (by simp) (fun x _ => ⟨_, kinds x, rfl, .inl rfl⟩) (.inr rfl)
      (.optionalAfter_none (.skip_false hnext))
  obtain ⟨k, ks, hk⟩ := exists_cons_of_ne_nil hc
  refine .look (P := fun _ => True) (by rw [hk]; exact .here) fun p _ => ?_
  refine .bind (h.1 _ (.inl rfl)) fun e he => .bind_pure hmore fun es hes => ?_
  obtain ⟨e', es, -, -, rfl⟩ := List.forall₂_cons_left_iff.1 hes
  exact ⟨p, _, .cons he hes, rfl⟩

theorem takes_expression (h : Takes (disjunction n) (k :: ks) next P) (hk : k ≠ .keyword .lambda_)
    (hnext : Follows closers next) : Takes (expression n) (k :: ks) next P :=
  h.lift fun _ _ _ _ ht _ hrest _ hread => expression_of_disjunction (ht ▸ hk) hread (hrest ▸ hnext)

end Expr

end DataDiagram.Source
