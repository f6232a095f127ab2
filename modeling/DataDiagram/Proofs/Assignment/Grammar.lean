import DataDiagram.Datum
import DataDiagram.Source.Lexer
import Mathlib.Algebra.BigOperators.Ring.Finset
import Mathlib.Algebra.BigOperators.Pi
import Mathlib.Tactic.Ring
/-!
# Linear expressions and their texts

Sums, differences and products of integers and variables, what they mean, and how they are written.
An expression is linear if in each product one of the factors has no variables.
-/

namespace DataDiagram.Assignment

open List

/-- An arithmetical expression. -/
inductive Term
  | number (n : Nat)
  | var (x : String)
  | plus (t : Term)
  | minus (t : Term)
  | add (s t : Term)
  | sub (s t : Term)
  | mul (s t : Term)

namespace Term

/-- What an expression denotes if variables have the given values. -/
def value (v : String → Int) : Term → Int
  | number n => n
  | var x => v x
  | plus t => value v t
  | minus t => -value v t
  | add s t => value v s + value v t
  | sub s t => value v s - value v t
  | mul s t => value v s * value v t

/-- The variables that an expression mentions. -/
def names : Term → List String
  | number _ => []
  | var x => [x]
  | plus t | minus t => names t
  | add s t | sub s t | mul s t => names s ++ names t

/-- Whether in each product a factor mentions no variable. -/
def IsLinear : Term → Prop
  | number _ | var _ => True
  | plus t | minus t => IsLinear t
  | add s t | sub s t => IsLinear s ∧ IsLinear t
  | mul s t => IsLinear s ∧ IsLinear t ∧ (names s = [] ∨ names t = [])

/-- The constant term of an expression. -/
def constant (t : Term) : Int := t.value 0

/-- The net coefficient of a variable in a linear expression: what the expression gains if the
variable gains one. -/
def coefficient (t : Term) (x : String) : Int := t.value (Pi.single x 1) - t.value 0

variable {s t : Term}

theorem value_of_names_eq_nil (ht : t.names = []) (v : String → Int) : t.value v = t.constant := by
  induction t with
  | number n => rfl
  | var x => exact absurd ht (by simp [names])
  | plus t ih => exact ih ht
  | minus t ih => rw [constant, value, value, ih ht, constant]
  | add s t ihs iht | sub s t ihs iht | mul s t ihs iht =>
    obtain ⟨hs, ht⟩ := append_eq_nil_iff.1 ht
    rw [constant, value, value, ihs hs, iht ht, constant, constant]

theorem coefficient_mul (s t : Term) (x : String) : (s.mul t).coefficient x =
    s.value (Pi.single x 1) * t.value (Pi.single x 1) - s.constant * t.constant := rfl

/-- A linear expression is its constant plus its variables times their coefficients. -/
theorem value_eq (ht : t.IsLinear) (v : String → Int) {S : Finset String}
    (hS : ∀ x ∈ t.names, x ∈ S) : t.value v = t.constant + ∑ x ∈ S, t.coefficient x * v x := by
  induction t with
  | number n => simp [value, constant, coefficient]
  | var x =>
    have hx : x ∈ S := hS x (by simp [names])
    simp [value, constant, coefficient, Pi.single_apply, hx]
  | plus t ih => exact ih ht hS
  | minus t ih =>
    have hcoefficient (x : String) : t.minus.coefficient x = -t.coefficient x := by
      simp only [coefficient, value]
      ring
    rw [value, ih ht hS]
    simp only [hcoefficient, neg_mul, Finset.sum_neg_distrib, constant, value]
    ring
  | add s t ihs iht =>
    have hcoefficient (x : String) :
        (s.add t).coefficient x = s.coefficient x + t.coefficient x := by
      simp only [coefficient, value]
      ring
    rw [value, ihs ht.1 fun x hx => hS x (mem_append_left _ hx),
      iht ht.2 fun x hx => hS x (mem_append_right _ hx)]
    simp only [hcoefficient, add_mul, Finset.sum_add_distrib, constant, value]
    ring
  | sub s t ihs iht =>
    have hcoefficient (x : String) :
        (s.sub t).coefficient x = s.coefficient x - t.coefficient x := by
      simp only [coefficient, value]
      ring
    rw [value, ihs ht.1 fun x hx => hS x (mem_append_left _ hx),
      iht ht.2 fun x hx => hS x (mem_append_right _ hx)]
    simp only [hcoefficient, sub_mul, Finset.sum_sub_distrib, constant, value]
    ring
  | mul s t ihs iht =>
    obtain ⟨hs, ht, hnames⟩ := ht
    have hvs := ihs hs fun x hx => hS x (mem_append_left _ hx)
    have hvt := iht ht fun x hx => hS x (mem_append_right _ hx)
    have hconstant : (s.mul t).constant = s.constant * t.constant := rfl
    -- The factor without variables is a number, and scales the coefficients of the other.
    rcases hnames with hnil | hnil
    · have hcoefficient (x : String) : (s.mul t).coefficient x = s.constant * t.coefficient x := by
        rw [coefficient_mul, value_of_names_eq_nil hnil, coefficient, constant, constant, mul_sub]
      rw [value, value_of_names_eq_nil hnil, hvt, hconstant, mul_add, Finset.mul_sum]
      simp only [hcoefficient, mul_assoc]
    · have hcoefficient (x : String) : (s.mul t).coefficient x = t.constant * s.coefficient x := by
        rw [coefficient_mul, value_of_names_eq_nil hnil, coefficient, constant, constant, mul_comm,
          mul_comm (s.value 0), mul_sub]
      rw [value, value_of_names_eq_nil hnil, hvs, hconstant, mul_comm, mul_add, Finset.mul_sum,
        mul_comm t.constant]
      simp only [hcoefficient, mul_assoc]

end Term

/-! ## Texts -/

/-- A mark of an arithmetical text. -/
inductive Mark
  | plus | minus | star | openParen | closeParen
  deriving DecidableEq

/-- How a mark is written. -/
def Mark.char : Mark → Char
  | plus => '+'
  | minus => '-'
  | star => '*'
  | openParen => '('
  | closeParen => ')'

/-- A part of an arithmetical text without blanks: a literal, a variable or a mark. -/
inductive Lexeme
  | literal (text : List Char)
  | name (x : String)
  | mark (m : Mark)
  deriving DecidableEq

namespace Lexeme

/-- The characters of a part, variables being spelled in some way. -/
def chars (spell : String → List Char) : Lexeme → List Char
  | literal cs => cs
  | name x => spell x
  | mark m => [m.char]

/-- Whether a part is a literal or a variable. -/
def isWord : Lexeme → Bool
  | mark _ => false
  | _ => true

end Lexeme

/-- `Digits cs ds` says that `cs` is the digits `ds`, with single low lines between some of them. -/
inductive Digits : List Char → List Char → Prop
  | last {d : Char} (hd : d.isDigit = true) : Digits [d] [d]
  | next {d : Char} {cs ds : List Char} (hd : d.isDigit = true) (h : Digits cs ds) :
      Digits (d :: cs) (d :: ds)
  | lowLine {d : Char} {cs ds : List Char} (hd : d.isDigit = true) (h : Digits cs ds) :
      Digits (d :: '_' :: cs) (d :: ds)

theorem Digits.isWord {cs ds : List Char} (h : Digits cs ds) :
    ∀ c ∈ cs, c.isAlphanum = true ∨ c = '_' := by
  have halnum {d : Char} (hd : d.isDigit = true) : d.isAlphanum = true ∨ d = '_' :=
    .inl (by rw [Char.isAlphanum, hd, Bool.or_true])
  induction h with
  | last hd => exact forall_mem_singleton.2 (halnum hd)
  | next hd _ ih => exact forall_mem_cons.2 ⟨halnum hd, ih⟩
  | lowLine hd _ ih => exact forall_mem_cons.2 ⟨halnum hd, forall_mem_cons.2 ⟨.inr rfl, ih⟩⟩

/-- `IsLiteral cs n` says that `cs` is a decimal literal of `n`: only zero is written with zeros in
front, and there are not too many digits. -/
def IsLiteral (cs : List Char) (n : Nat) : Prop :=
  ∃ ds, Digits cs ds ∧ (ds.head? = some '0' → ∀ d ∈ ds, d = '0') ∧ ds.length ≤ Datum.maxDigits ∧
    n = Nat.ofDigitChars 10 ds 0

/-- How tight the operators of an expression bind at least. -/
inductive Level
  | factor | product | sum

/-- `Spells names depth level t ls` says that the parts `ls` are the expression `t` over variables
with the given names, in which parentheses nest at most `depth` deep.  No name is part of a
literal. -/
inductive Spells (names : List String) : (depth : Nat) → Level → Term → List Lexeme → Prop
  | literal {depth cs n} (hcs : IsLiteral cs n) (hfree : ∀ x ∈ names, ¬ x.toList <:+: cs) :
      Spells names depth .factor (.number n) [.literal cs]
  | name {depth x} (hx : x ∈ names) : Spells names depth .factor (.var x) [.name x]
  | paren {depth t ls} (h : Spells names depth .sum t ls) :
      Spells names (depth + 1) .factor t (.mark .openParen :: ls ++ [.mark .closeParen])
  | plus {depth t ls} (h : Spells names depth .factor t ls) :
      Spells names depth .factor (.plus t) (.mark .plus :: ls)
  | minus {depth t ls} (h : Spells names depth .factor t ls) :
      Spells names depth .factor (.minus t) (.mark .minus :: ls)
  | factor {depth t ls} (h : Spells names depth .factor t ls) : Spells names depth .product t ls
  | mul {depth s t ls ms} (hs : Spells names depth .product s ls)
      (ht : Spells names depth .factor t ms) :
      Spells names depth .product (.mul s t) (ls ++ .mark .star :: ms)
  | product {depth t ls} (h : Spells names depth .product t ls) : Spells names depth .sum t ls
  | add {depth s t ls ms} (hs : Spells names depth .sum s ls)
      (ht : Spells names depth .product t ms) :
      Spells names depth .sum (.add s t) (ls ++ .mark .plus :: ms)
  | sub {depth s t ls ms} (hs : Spells names depth .sum s ls)
      (ht : Spells names depth .product t ms) :
      Spells names depth .sum (.sub s t) (ls ++ .mark .minus :: ms)

/-- `Spaced spell ls cs` says that `cs` is the parts `ls` with any blanks before, between and after
them. -/
inductive Spaced (spell : String → List Char) : List Lexeme → List Char → Prop
  | nil {gap} (hgap : ∀ c ∈ gap, Source.isGap c = true) : Spaced spell [] gap
  | cons {gap l ls cs} (hgap : ∀ c ∈ gap, Source.isGap c = true) (h : Spaced spell ls cs) :
      Spaced spell (l :: ls) (gap ++ l.chars spell ++ cs)

/-- `Denotes names right t` says that the text `right` is the expression `t` over variables with the
given names. -/
def Denotes (names : List String) (right : List Char) (t : Term) : Prop :=
  ∃ ls, Spaced String.toList ls right ∧ Spells names Source.maxBrackets .sum t ls

/-! ## Neighbours -/

/-- Whether two parts can be neighbours: a word needs a mark beside it, and no two stars meet. -/
def Lexeme.Meets (a b : Lexeme) : Prop :=
  ¬ (a.isWord = true ∧ b.isWord = true) ∧ ¬ (a = .mark .star ∧ b = .mark .star)

/-- Parts of which neighbours can be such, with no star at either end. -/
structure Framed (ls : List Lexeme) : Prop where
  ne_nil : ls ≠ []
  head_ne_star : ∀ a ∈ ls.head?, a ≠ .mark .star
  last_ne_star : ∀ a ∈ ls.getLast?, a ≠ .mark .star
  chain : ls.IsChain Lexeme.Meets

variable {m : Mark} {a : Lexeme} {ls : List Lexeme} {level : Level} {t : Term}

theorem meets_mark_left {b : Lexeme} (h : m = .star → b ≠ .mark .star) : Lexeme.Meets (.mark m) b :=
  ⟨by simp [Lexeme.isWord], fun ⟨hm, hb⟩ => h (Lexeme.mark.inj hm) hb⟩

theorem meets_mark_right (h : a ≠ .mark .star) : Lexeme.Meets a (.mark m) :=
  ⟨by simp [Lexeme.isWord], fun ⟨ha, _⟩ => h ha⟩

theorem framed_single (ha : a ≠ .mark .star) : Framed [a] :=
  ⟨by simp, by simpa using ha, by simpa using ha, isChain_singleton a⟩

theorem Framed.cons_mark (h : Framed ls) (hm : m ≠ .star) : Framed (.mark m :: ls) := by
  refine ⟨by simp, by simpa using hm, ?_, ?_⟩
  · rw [List.getLast?_cons_of_ne_nil h.ne_nil]
    exact h.last_ne_star
  · rw [isChain_cons]
    exact ⟨fun b _ => meets_mark_left fun hstar => absurd hstar hm, h.chain⟩

theorem Framed.append_mark {ms : List Lexeme} (hls : Framed ls) (hms : Framed ms) (m : Mark) :
    Framed (ls ++ .mark m :: ms) := by
  refine ⟨by simp, ?_, ?_, ?_⟩
  · rw [List.head?_append_of_ne_nil _ hls.ne_nil]
    exact hls.head_ne_star
  · rw [List.getLast?_append_of_ne_nil _ (cons_ne_nil _ _),
      List.getLast?_cons_of_ne_nil hms.ne_nil]
    exact hms.last_ne_star
  · rw [isChain_append, isChain_cons]
    refine ⟨hls.chain, ⟨fun b hb => meets_mark_left fun _ => hms.head_ne_star b hb, hms.chain⟩, ?_⟩
    intro a ha b hb
    obtain rfl : .mark m = b := by simpa using hb
    exact meets_mark_right (hls.last_ne_star a ha)

theorem Framed.parens (h : Framed ls) : Framed (.mark .openParen :: ls ++ [.mark .closeParen]) := by
  have hopen := h.cons_mark (m := .openParen) (by simp)
  refine ⟨by simp, by simp, ?_, ?_⟩
  · rw [List.getLast?_concat]
    simp
  rw [isChain_append]
  refine ⟨hopen.chain, isChain_singleton _, ?_⟩
  intro a ha b hb
  obtain rfl : .mark .closeParen = b := by simpa using hb
  exact meets_mark_right (hopen.last_ne_star a ha)

variable {names : List String}

theorem Spells.framed {depth : Nat} (h : Spells names depth level t ls) : Framed ls := by
  induction h with
  | literal _ _ => exact framed_single (by simp)
  | name _ => exact framed_single (by simp)
  | paren _ ih => exact ih.parens
  | plus _ ih => exact ih.cons_mark (by simp)
  | minus _ ih => exact ih.cons_mark (by simp)
  | factor _ ih => exact ih
  | mul _ _ ihs iht => exact ihs.append_mark iht .star
  | product _ ih => exact ih
  | add _ _ ihs iht => exact ihs.append_mark iht .plus
  | sub _ _ ihs iht => exact ihs.append_mark iht .minus

/-- Whether a part is of an expression over variables with the given names. -/
def Lexeme.Over (names : List String) : Lexeme → Prop
  | .literal cs => (∃ n, IsLiteral cs n) ∧ ∀ x ∈ names, ¬ x.toList <:+: cs
  | .name x => x ∈ names
  | .mark _ => True

theorem Spells.over {depth : Nat} (h : Spells names depth level t ls) : ∀ l ∈ ls, l.Over names := by
  have hmark (m : Mark) : (Lexeme.mark m).Over names := trivial
  induction h with
  | literal hcs hfree => exact forall_mem_singleton.2 ⟨⟨_, hcs⟩, hfree⟩
  | name hx => exact forall_mem_singleton.2 hx
  | paren _ ih =>
    exact forall_mem_append.2
      ⟨forall_mem_cons.2 ⟨hmark _, ih⟩, forall_mem_singleton.2 (hmark _)⟩
  | plus _ ih | minus _ ih => exact forall_mem_cons.2 ⟨hmark _, ih⟩
  | factor _ ih | product _ ih => exact ih
  | mul _ _ ihs iht | add _ _ ihs iht | sub _ _ ihs iht =>
    exact forall_mem_append.2 ⟨ihs, forall_mem_cons.2 ⟨hmark _, iht⟩⟩

theorem Spells.mem_names {depth : Nat} (h : Spells names depth level t ls) :
    ∀ x ∈ t.names, x ∈ names := by
  induction h with
  | literal _ _ => simp [Term.names]
  | name hx => exact forall_mem_singleton.2 hx
  | paren _ ih | plus _ ih | minus _ ih | factor _ ih | product _ ih => exact ih
  | mul _ _ ihs iht | add _ _ ihs iht | sub _ _ ihs iht => exact forall_mem_append.2 ⟨ihs, iht⟩

end DataDiagram.Assignment
