import DataDiagram.Proofs.Source.Lines
import DataDiagram.Source.Formatted
/-!
# Expressions in formatted strings

The expressions within a formatted string are parts of its content.  Each one stands after a brace.
-/

namespace DataDiagram.Source.Piece

open List

variable {cs : List Char} {fuel : Nat} {after text : List Char} {raw : Bool} {pieces : List Piece}

theorem literalPart_suffix {outer : Bool}
    (h : literalPart raw outer fuel cs = some (text, after)) : after <:+ cs := by
  fun_induction literalPart raw outer fuel cs generalizing text after with
  | case1 | case8 => cases h
  | case2 | case9 => exact suffix_of_pure h
  | case3 fuel c rest _ ih | case5 fuel c rest _ _ _ ih | case10 fuel c rest _ _ ih =>
    have hmore := suffix_of_bind h (fun _ _ => ih) fun _ _ => suffix_of_pure
    exact hmore.trans (suffix_cons ..)
  | case4 fuel c rest =>
    rename_i ih
    have hmore := suffix_of_bind h (fun _ _ => ih) fun _ _ => suffix_of_pure
    have hdrop : (rest.dropWhile (· != '}')).drop 1 <:+ rest :=
      (drop_suffix ..).trans (dropWhile_suffix _)
    exact (hmore.trans hdrop).trans ((suffix_cons ..).trans (suffix_cons ..))
  | case6 fuel c rest _ _ _ ih =>
    have hmore := suffix_of_bind h (fun _ _ => ih) fun _ _ => suffix_of_pure
    exact hmore.trans ((suffix_cons ..).trans (suffix_cons ..))
  | case7 fuel c rest _ _ _ ih =>
    have hmore := suffix_of_bind h (fun _ _ => ih) fun _ _ => suffix_of_pure
    exact hmore.trans ((drop_suffix ..).trans (suffix_cons ..))

theorem innerString_eq {quote : Char} {long : Bool}
    (h : innerString quote long cs = some (text, after)) : text ++ after = cs := by
  fun_induction innerString quote long cs generalizing text after with
  | case1 | case2 => cases h
  | case3 =>
    cases h
    rfl
  | case4 c rest _ _ hquote =>
    cases h
    obtain ⟨hc, htake⟩ := Bool.and_eq_true_iff.1 hquote
    have hc : c = quote := by simpa using hc
    have htake : rest.take 2 = [quote, quote] := by simpa using htake
    calc [c, c, c] ++ rest.drop 2
        = c :: ([quote, quote] ++ rest.drop 2) := by rw [hc]; rfl
      _ = c :: rest := by rw [← htake, take_append_drop]
  | case5 c rest _ _ _ ih =>
    obtain ⟨p, hp, hrest⟩ := Option.bind_eq_some_iff.1 h
    cases hrest
    exact congrArg (c :: ·) (ih hp)

/-- A text that is cut in two before a plain character. -/
def Cut (cs text after : List Char) : Prop :=
  text ++ after = cs ∧ ∃ c rest, after = c :: rest ∧ Plain c

/-- A text that goes on after what has been taken of it. -/
theorem Cut.of_bind {x : Option (List Char × List Char)}
    {f : List Char × List Char → Option (List Char × List Char)}
    {taken more : List Char} (h : x.bind f = some (text, after))
    (hf : ∀ p, f p = some (taken ++ p.1, p.2))
    (hx : ∀ {text after}, x = some (text, after) → Cut more text after) :
    Cut (taken ++ more) text after := by
  obtain ⟨p, hp, hrest⟩ := Option.bind_eq_some_iff.1 h
  rw [hf] at hrest
  cases hrest
  obtain ⟨heq, hnext⟩ := hx hp
  exact ⟨by rw [append_assoc, heq], hnext⟩

theorem plain_of_ends {open_ : Bool} {c : Char}
    (h : (open_ && (c == '!' || c == ':' || c == '}' || c == '=' || c == '>' || c == '<')) = true) :
    Plain c := by
  simp only [Bool.and_eq_true, Bool.or_eq_true, beq_iff_eq] at h
  rcases h.2 with ((((rfl | rfl) | rfl) | rfl) | rfl) | rfl
  all_goals exact ⟨by decide, by decide⟩

theorem expressionPart_cut {expected : List Char}
    (h : expressionPart fuel expected cs = some (text, after)) : Cut cs text after := by
  fun_induction expressionPart fuel expected cs generalizing text after with
  | case1 | case2 | case3 => cases h
  | case4 =>
    rename_i fuel expected c rest go _ _ long opening ih
    obtain ⟨⟨body, more⟩, hbody, hgo⟩ := Option.bind_eq_some_iff.1 h
    have hmore : Cut (opening ++ body ++ more) text after := .of_bind hgo (fun _ => rfl) (ih _ _)
    rw [append_assoc, innerString_eq hbody] at hmore
    by_cases hlong : long
    · have htake : rest.take 2 = [c, c] := by simpa [long] using hlong
      simp only [opening, hlong, if_true] at hmore
      rw [← take_append_drop 2 rest, htake]
      exact hmore
    · simpa [opening, hlong] using hmore
  | case5 | case6 | case7 | case11 | case14 =>
    rename_i ih
    exact .of_bind h (fun _ => rfl) (ih _ _)
  | case8 | case10 =>
    cases h
    exact ⟨rfl, _, _, rfl, plain_of_ends ‹_›⟩
  | case9 | case12 | case13 => cases h

theorem equalsPart_suffix (cs : List Char) : (equalsPart cs).2 <:+ cs := by
  unfold equalsPart
  split
  · exact (dropWhile_suffix _).trans (suffix_cons ..)
  · exact suffix_rfl

theorem conversionPart_suffix {rest : List Char} {conversion : Option Conversion}
    (h : conversionPart cs = some (conversion, rest)) : rest <:+ cs := by
  unfold conversionPart at h
  split at h
  all_goals cases h
  all_goals simp [suffix_cons_iff]

mutual

/-- The expressions in a part of a formatted string, each with how much is left from its brace
on. -/
def fields : Piece → List (Nat × List Char)
  | literal _ => []
  | field left expr _ _ layout => (left, expr) :: fieldsOfLayout layout

def fieldsOfLayout : Option (List Piece) → List (Nat × List Char)
  | none => []
  | some pieces => fieldsOfAll pieces

def fieldsOfAll : List Piece → List (Nat × List Char)
  | [] => []
  | p :: rest => fields p ++ fieldsOfAll rest

end

theorem fieldsOfAll_append (ps qs : List Piece) :
    fieldsOfAll (ps ++ qs) = fieldsOfAll ps ++ fieldsOfAll qs := by
  induction ps with
  | nil => rfl
  | cons p ps ih => rw [cons_append, fieldsOfAll, ih, fieldsOfAll, append_assoc]

/-- An expression stands in the content of a formatted string between a brace and a plain
character. -/
def FieldOf (cs : List Char) (f : Nat × List Char) : Prop :=
  ∃ c after, '{' :: (f.2 ++ c :: after) <:+ cs ∧ ('{' :: (f.2 ++ c :: after)).length = f.1 ∧ Plain c

theorem FieldOf.trans {ds : List Char} {f : Nat × List Char} (h : FieldOf cs f) (hcs : cs <:+ ds) :
    FieldOf ds f := by
  obtain ⟨c, after, hsuffix, hf⟩ := h
  exact ⟨c, after, hsuffix.trans hcs, hf⟩

/-- The expressions of a formatted string stand in its content, and what is left is the rest of
it. -/
theorem split_spec {level : Nat} (h : split raw fuel level cs = some (pieces, after)) :
    after <:+ cs ∧ ∀ f ∈ fieldsOfAll pieces, FieldOf cs f := by
  induction fuel generalizing level cs after pieces with
  | zero => cases h
  | succ fuel ih =>
    obtain ⟨⟨text, rest⟩, hliteral, h⟩ := Option.bind_eq_some_iff.1 h
    have hrest := literalPart_suffix hliteral
    have hhead : fieldsOfAll (if text.isEmpty then [] else [literal text]) = [] := by split <;> rfl
    simp only at h
    generalize (if text.isEmpty then [] else [literal text]) = head at h hhead
    split at h
    · rename_i inner
      obtain ⟨⟨expr, rest₁⟩, hexpr, h⟩ :=
        Option.bind_eq_some_iff.1 (Option.ite_none_left_eq_some.1 h).2
      obtain ⟨⟨conversion, rest₂⟩, hconversion, h⟩ := Option.bind_eq_some_iff.1 h
      obtain ⟨hinner, c, more, hnext, hc⟩ := expressionPart_cut hexpr
      have hrest₂ : rest₂ <:+ cs := (conversionPart_suffix hconversion).trans
        ((equalsPart_suffix rest₁).trans
          ((hinner ▸ suffix_append ..).trans ((suffix_cons ..).trans hrest)))
      have hfield : FieldOf cs (inner.length + 1, expr) := by
        subst hnext
        subst hinner
        exact ⟨c, more, hrest, rfl, hc⟩
      -- After the layout, if there is one, the expression ends and the string goes on.
      have hclose : ∀ (layout : Option (List Piece)) {rest : List Char}, '}' :: rest <:+ cs →
          (∀ f ∈ fieldsOfLayout layout, FieldOf cs f) →
          ((split raw fuel level rest).bind fun p => some
            (head ++ field (inner.length + 1) expr ((equalsPart rest₁).1.map (expr ++ ·))
              conversion layout
              :: p.1, p.2)) = some (pieces, after) →
          after <:+ cs ∧ ∀ f ∈ fieldsOfAll pieces, FieldOf cs f := by
        intro layout rest hrest hlayout hrun
        obtain ⟨⟨more, last⟩, hmore, hpure⟩ := Option.bind_eq_some_iff.1 hrun
        cases hpure
        have hlast := (suffix_cons ..).trans hrest
        obtain ⟨hafter, hfields⟩ := ih hmore
        refine ⟨hafter.trans hlast, ?_⟩
        rw [fieldsOfAll_append, hhead, nil_append, fieldsOfAll, fields, cons_append]
        exact forall_mem_cons.2 ⟨hfield, forall_mem_append.2
          ⟨hlayout, fun f hf => (hfields f hf).trans hlast⟩⟩
      simp only at h
      split at h
      · obtain ⟨⟨layout, rest₃⟩, hlayout, h⟩ := Option.bind_eq_some_iff.1 h
        have hcolon := (suffix_cons ..).trans hrest₂
        obtain ⟨hrest₃, hfields⟩ := ih hlayout
        simp only [Option.bind_eq_bind, Option.bind_some] at h
        split at h
        · exact hclose (some layout) (hrest₃.trans hcolon)
            (fun f hf => (hfields f hf).trans hcolon) h
        · cases h
      · simp only [Option.bind_eq_bind, Option.bind_some] at h
        split at h
        · exact hclose none hrest₂ (forall_mem_nil _) h
        · cases h
    · cases h
      exact ⟨hrest, hhead ▸ forall_mem_nil _⟩

theorem fieldOf_ofContent {content : List Char} (h : ofContent raw content = some pieces) :
    ∀ f ∈ fieldsOfAll pieces, FieldOf content f := by
  obtain ⟨⟨parts, rest⟩, hsplit, hpure⟩ := Option.bind_eq_some_iff.1 h
  cases (Option.ite_none_right_eq_some.1 hpure).2
  exact (split_spec hsplit).2

end DataDiagram.Source.Piece
