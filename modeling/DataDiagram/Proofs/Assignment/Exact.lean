import DataDiagram.Assignment.Read
import DataDiagram.Proofs.Assignment.LinearForm
import DataDiagram.Proofs.Assignment.Structure
/-!
# Exact algebras

What is assumed of an algebra about linear right sides, and an algebra of which it holds: a
calculator that goes through a right side once, with a stack for the parentheses.
-/

namespace DataDiagram.Assignment

open List

variable {σ : Type} {names : List String}

/-- Whether like terms of a quantity are collected: it is a sum of integers and of multiples of
symbols, in which a symbol stands in one term at most, and not with the coefficient zero. -/
def Quantity.IsCollected (q : Quantity) : Prop :=
  (∀ t ∈ q.summands, (∃ n, t = .integer n) ∨ ∃ x k, t.multiple? = some (x, k) ∧ k ≠ 0) ∧
    (q.multiples.map Prod.fst).Nodup

namespace Algebra

/-- What a right side evaluates to if it is the first one. -/
def first (A : Algebra σ) (names : List String) (right : List Atom) : Evaluated :=
  ((A.evaluate right).run (A.start names)).1

/-- What is assumed of an algebra: how it evaluates the texts of linear expressions. -/
structure Exact (A : Algebra σ) (names : List String) : Prop where
  /-- Without variables, there are only integers of the language to compute with. -/
  plain {right : List Char} {t : Term} : Denotes names right t → t.names = [] →
    A.first names (atomsFrom names 0 right) = .foreign "'int' object" "is_Integer"
  evaluates {right : List Char} {t : Term} : Denotes names right t → t.IsLinear → t.names ≠ [] →
    ∃ q, A.first names (atomsFrom names 0 right) = .quantity q
  value {right : List Char} {t : Term} {q : Quantity} : Denotes names right t → t.IsLinear →
    A.first names (atomsFrom names 0 right) = .quantity q → ∀ v, q.valueAt v = some (t.value v)
  collected {right : List Char} {t : Term} {q : Quantity} : Denotes names right t → t.IsLinear →
    A.first names (atomsFrom names 0 right) = .quantity q → q.IsCollected

end Algebra

/-! ## The parts of a right side -/

namespace Atom

/-- Whether an atom is no blank within a line. -/
def isSolid : Atom → Bool
  | char c => !Source.isGap c
  | name _ => true

def name? : Atom → Option String
  | char _ => none
  | name x => some x

end Atom

/-- The atoms of a part. -/
def Lexeme.atoms : Lexeme → List Atom
  | literal cs => cs.map .char
  | name x => [.name x]
  | mark m => [.char m.char]

theorem filter_isSolid_chars {cs : List Char} (hcs : ∀ c ∈ cs, Source.isGap c = false) :
    (cs.map Atom.char).filter Atom.isSolid = cs.map .char := by
  rw [filter_eq_self]
  intro a ha
  obtain ⟨c, hc, rfl⟩ := mem_map.1 ha
  simp [Atom.isSolid, hcs c hc]

theorem filter_isSolid_gap {gap : List Char} (hgap : ∀ c ∈ gap, Source.isGap c = true) :
    (gap.map Atom.char).filter Atom.isSolid = [] := by
  rw [filter_eq_nil_iff]
  intro a ha
  obtain ⟨c, hc, rfl⟩ := mem_map.1 ha
  simp [Atom.isSolid, hgap c hc]

theorem filter_isSolid_lexeme (h : Separable names) {l : Lexeme} (hl : l.Over names)
    {cs : List Char} (hcs : l.isWord = true → Stops cs) :
    (atomsFrom names 0 (l.chars String.toList ++ cs)).filter Atom.isSolid =
      l.atoms ++ (atomsFrom names 0 cs).filter Atom.isSolid := by
  cases l with
  | literal text =>
    obtain ⟨⟨n, ds, hds, -⟩, hfree⟩ := hl
    have hsolid : ∀ c ∈ text, Source.isGap c = false := by
      intro c hc
      refine Bool.eq_false_iff.2 fun hgap => ?_
      have hall : ∀ c ∈ delimiters, ¬ (c.isAlphanum = true ∨ c = '_') := by decide
      exact hall c (mem_delimiters_of_isGap hgap) (hds.isWord c hc)
    rw [Lexeme.chars, h.atomsFrom_free hfree (hcs rfl), filter_append, filter_isSolid_chars hsolid]
    rfl
  | name x =>
    rw [Lexeme.chars, h.atomsFrom_name hl]
    rfl
  | mark m =>
    have hstart : ∀ c ∈ [m.char], Text.isIdentifierStart c = false :=
      forall_mem_singleton.2 (isIdentifierStart_of_mem_delimiters (mark_mem_delimiters m))
    rw [Lexeme.chars, h.atomsFrom_plain hstart, filter_append,
      filter_isSolid_chars (forall_mem_singleton.2 (by cases m <;> rfl))]
    rfl

/-- Blanks apart, the atoms of a right side are those of its parts. -/
theorem Spaced.filter_isSolid (h : Separable names) {ls : List Lexeme} {cs : List Char}
    (hcs : Spaced String.toList ls cs) (hover : ∀ l ∈ ls, l.Over names)
    (hchain : ls.IsChain Lexeme.Meets) :
    (atomsFrom names 0 cs).filter Atom.isSolid = ls.flatMap Lexeme.atoms := by
  have hstart {gap : List Char} (hgap : ∀ c ∈ gap, Source.isGap c = true) :
      ∀ c ∈ gap, Text.isIdentifierStart c = false :=
    fun c hc => isIdentifierStart_of_mem_delimiters (mem_delimiters_of_isGap (hgap c hc))
  induction hcs with
  | @nil gap hgap =>
    rw [← append_nil gap, h.atomsFrom_plain (hstart hgap), h.atomsFrom_nil, append_nil,
      filter_isSolid_gap hgap]
    rfl
  | @cons gap l ls cs hgap hcs ih =>
    rw [isChain_cons] at hchain
    rw [forall_mem_cons] at hover
    have hstops : l.isWord = true → Stops cs := fun hl => hcs.stops fun l' hl' =>
      Bool.eq_false_iff.2 fun hword => (hchain.1 l' hl').1 ⟨hl, hword⟩
    rw [append_assoc, h.atomsFrom_plain (hstart hgap), filter_append, filter_isSolid_gap hgap,
      nil_append, filter_isSolid_lexeme h hover.1 hstops, ih hover.2 hchain.2, flatMap_cons]

theorem Spells.names_eq {depth : Nat} {level : Level} {t : Term} {ls : List Lexeme}
    (h : Spells names depth level t ls) :
    (ls.flatMap Lexeme.atoms).filterMap Atom.name? = t.names := by
  induction h with
  | @literal _ cs _ _ _ =>
    rw [flatMap_singleton, Term.names, Lexeme.atoms, filterMap_map, filterMap_eq_nil_iff]
    exact fun _ _ => rfl
  | name _ => rfl
  | paren _ ih =>
    rw [cons_append, flatMap_cons, flatMap_append, filterMap_append, filterMap_append, ih]
    exact append_nil _
  | plus _ ih | minus _ ih | factor _ ih | product _ ih => exact ih
  | mul _ _ ihs iht | add _ _ ihs iht | sub _ _ ihs iht =>
    rw [flatMap_append, flatMap_cons, filterMap_append, filterMap_append, ihs, iht]
    rfl

/-! ## The calculator -/

/-- A sum under way, of which the last term is a product under way.  A last factor is there unless
the calculator waits for one. -/
structure Calculator where
  /-- The sums and products that parentheses interrupt. -/
  outer : List (Int × Int)
  sum : Int
  product : Int
  factor : Int
  waits : Bool

namespace Calculator

def start : Calculator := ⟨[], 0, 1, 1, true⟩

def total (c : Calculator) : Int := c.sum + c.product * c.factor

def put (c : Calculator) (n : Int) : Calculator := { c with factor := n, waits := false }

def digit (c : Calculator) (d : Nat) : Calculator :=
  c.put (if c.waits then d else 10 * c.factor + d)

/-- A sign is one of the next factor if the calculator waits for it. -/
def mark (c : Calculator) : Mark → Calculator
  | .plus => if c.waits then c else { c with sum := c.total, product := 1, waits := true }
  | .minus =>
    if c.waits then { c with product := -c.product }
    else { c with sum := c.total, product := -1, waits := true }
  | .star => { c with product := c.product * c.factor, waits := true }
  | .openParen => ⟨(c.sum, c.product) :: c.outer, 0, 1, 1, true⟩
  | .closeParen =>
    match c.outer with
    | (sum, product) :: outer => ⟨outer, sum, product, c.total, false⟩
    | [] => c

def step (v : String → Int) (c : Calculator) : Atom → Calculator
  | .name x => c.put (v x)
  | .char '+' => c.mark .plus
  | .char '-' => c.mark .minus
  | .char '*' => c.mark .star
  | .char '(' => c.mark .openParen
  | .char ')' => c.mark .closeParen
  | .char d => if d.isDigit then c.digit (d.toNat - '0'.toNat) else c

variable {v : String → Int} {c : Calculator}

theorem step_digit {d : Char} (hd : d.isDigit = true) :
    c.step v (.char d) = c.digit (d.toNat - '0'.toNat) := by
  unfold step
  split <;> simp_all

theorem foldl_step_digits {cs ds : List Char} (h : Digits cs ds) {n : Nat}
    (hn : c.waits = true ∧ n = 0 ∨ c.waits = false ∧ c.factor = n) :
    (cs.map Atom.char).foldl (step v) c = c.put (Nat.ofDigitChars 10 ds n) := by
  have hdigit (d : Char) (c : Calculator) (n : Nat)
      (hn : c.waits = true ∧ n = 0 ∨ c.waits = false ∧ c.factor = n) :
      c.digit (d.toNat - '0'.toNat) = c.put (10 * n + (d.toNat - '0'.toNat) : Nat) := by
    rcases hn with ⟨hwaits, rfl⟩ | ⟨hwaits, hfactor⟩
    · simp [digit, hwaits]
    · simp [digit, hwaits, hfactor]
  induction h generalizing c n with
  | last hd =>
    rw [map_singleton, foldl_cons, foldl_nil, step_digit hd, hdigit _ _ _ hn,
      Nat.ofDigitChars_cons, Nat.ofDigitChars_nil]
  | next hd _ ih =>
    rw [map_cons, foldl_cons, step_digit hd, hdigit _ _ _ hn, ih (.inr ⟨rfl, rfl⟩),
      Nat.ofDigitChars_cons]
    rfl
  | lowLine hd _ ih =>
    rw [map_cons, map_cons, foldl_cons, foldl_cons, step_digit hd, hdigit _ _ _ hn]
    have hlow (c : Calculator) : c.step v (.char '_') = c := rfl
    rw [hlow, ih (.inr ⟨rfl, rfl⟩), Nat.ofDigitChars_cons]
    rfl

/-- `Computes v level t as` says that the atoms `as` bring a calculator that waits to the value of
`t`: a factor or a product multiplies the product under way, and a sum is added to the sum under
way. -/
def Computes (v : String → Int) (t : Term) (as : List Atom) : Level → Prop
  | .factor | .product => ∀ c : Calculator, c.waits = true → ∃ p f,
      as.foldl (step v) c = ⟨c.outer, c.sum, p, f, false⟩ ∧ p * f = c.product * t.value v
  | .sum => ∀ c : Calculator, c.waits = true → c.product = 1 → ∃ s p f,
      as.foldl (step v) c = ⟨c.outer, s, p, f, false⟩ ∧ s + p * f = c.sum + t.value v

theorem computes {depth : Nat} {level : Level} {t : Term} {ls : List Lexeme}
    (h : Spells names depth level t ls) (v : String → Int) :
    Computes v t (ls.flatMap Lexeme.atoms) level := by
  induction h with
  | @literal _ cs n hcs _ =>
    intro c hc
    obtain ⟨ds, hds, -, -, rfl⟩ := hcs
    refine ⟨c.product, Nat.ofDigitChars 10 ds 0, ?_, rfl⟩
    rw [flatMap_singleton, Lexeme.atoms, foldl_step_digits hds (.inl ⟨hc, rfl⟩)]
    rfl
  | @name _ x hx => exact fun c hc => ⟨c.product, v x, rfl, rfl⟩
  | @paren _ t ls _ ih =>
    intro c hc
    obtain ⟨s, p, f, hrun, hvalue⟩ := ih ⟨(c.sum, c.product) :: c.outer, 0, 1, 1, true⟩ rfl rfl
    refine ⟨c.product, s + p * f, ?_, by rw [hvalue, zero_add]⟩
    have hopen : c.step v (.char '(') = ⟨(c.sum, c.product) :: c.outer, 0, 1, 1, true⟩ := rfl
    rw [cons_append, flatMap_cons, flatMap_append, foldl_append, foldl_append]
    change foldl _ (foldl _ (c.step v (.char '(')) _) _ = _
    rw [hopen, hrun]
    rfl
  | plus _ ih =>
    intro c hc
    have hplus : c.step v (.char '+') = c := if_pos hc
    rw [flatMap_cons, foldl_append]
    change ∃ p f, foldl _ (c.step v (.char '+')) _ = _ ∧ _
    rw [hplus]
    exact ih c hc
  | @minus _ t _ _ ih =>
    intro c hc
    have hminus : c.step v (.char '-') = { c with product := -c.product } := if_pos hc
    obtain ⟨p, f, hrun, hvalue⟩ := ih { c with product := -c.product } hc
    refine ⟨p, f, ?_, by rw [hvalue, Term.value, neg_mul, mul_neg]⟩
    rw [flatMap_cons, foldl_append]
    change foldl _ (c.step v (.char '-')) _ = _
    rw [hminus, hrun]
  | factor _ ih => exact ih
  | @mul _ s t ls ms _ _ ihs iht =>
    intro c hc
    obtain ⟨p, f, hrun, hvalue⟩ := ihs c hc
    obtain ⟨p', f', hrun', hvalue'⟩ := iht ⟨c.outer, c.sum, p * f, f, true⟩ rfl
    refine ⟨p', f', ?_, by rw [hvalue', hvalue, Term.value, mul_assoc]⟩
    rw [flatMap_append, flatMap_cons, foldl_append, foldl_append, hrun]
    exact hrun'
  | product _ ih =>
    intro c hc hproduct
    obtain ⟨p, f, hrun, hvalue⟩ := ih c hc
    exact ⟨c.sum, p, f, hrun, by rw [hvalue, hproduct, one_mul]⟩
  | @add _ s t ls ms _ _ ihs iht =>
    intro c hc hproduct
    obtain ⟨s, p, f, hrun, hvalue⟩ := ihs c hc hproduct
    obtain ⟨p', f', hrun', hvalue'⟩ := iht ⟨c.outer, s + p * f, 1, f, true⟩ rfl
    refine ⟨s + p * f, p', f', ?_, by rw [hvalue', hvalue, Term.value]; ring⟩
    rw [flatMap_append, flatMap_cons, foldl_append, foldl_append, hrun]
    exact hrun'
  | @sub _ s t ls ms _ _ ihs iht =>
    intro c hc hproduct
    obtain ⟨s, p, f, hrun, hvalue⟩ := ihs c hc hproduct
    obtain ⟨p', f', hrun', hvalue'⟩ := iht ⟨c.outer, s + p * f, -1, f, true⟩ rfl
    refine ⟨s + p * f, p', f', ?_, by rw [hvalue', hvalue, Term.value]; ring⟩
    rw [flatMap_append, flatMap_cons, foldl_append, foldl_append, hrun]
    exact hrun'

/-- The value of a right side. -/
def valueAt (right : List Atom) (v : String → Int) : Int :=
  ((right.filter Atom.isSolid).foldl (step v) start).total

theorem valueAt_eq (h : Separable names) {right : List Char} {t : Term}
    (hright : Denotes names right t) :
    valueAt (atomsFrom names 0 right) = fun v => t.value v := by
  obtain ⟨ls, hspaced, hls⟩ := hright
  funext v
  obtain ⟨s, p, f, hrun, hvalue⟩ := computes hls v start rfl rfl
  rw [valueAt, hspaced.filter_isSolid h hls.over hls.framed.chain, hrun, total, hvalue]
  exact zero_add _

/-- The sum of a constant and multiples of symbols. -/
def quantity (names : List String) (constant : Int) (coefficient : String → Int) : Quantity :=
  .sum (.integer constant :: (names.filter fun x => coefficient x ≠ 0).map fun x =>
    .product [.integer (coefficient x), .symbol x] (.ok "")) (.ok "")

variable {constant : Int} {coefficient : String → Int}

theorem isCollected_quantity (hnames : names.Nodup) :
    (quantity names constant coefficient).IsCollected := by
  have hmultiples : (quantity names constant coefficient).multiples =
      (names.filter fun x => coefficient x ≠ 0).map fun x => (x, coefficient x) := by
    rw [quantity, Quantity.multiples, Quantity.summands, filterMap_cons_none rfl, filterMap_map]
    exact congrFun filterMap_eq_map _
  refine ⟨forall_mem_cons.2 ⟨.inl ⟨_, rfl⟩, fun q hq => ?_⟩, ?_⟩
  · obtain ⟨x, hx, rfl⟩ := mem_map.1 hq
    exact .inr ⟨x, _, rfl, by simpa using (mem_filter.1 hx).2⟩
  · rw [hmultiples, map_map]
    exact (hnames.filter _).map fun _ _ heq => heq

theorem valueAt_quantity (names : List String) (v : String → Int) :
    (quantity names constant coefficient).valueAt v =
      some (constant + (names.map fun x => coefficient x * v x).sum) := by
  have hvalues (xs : List String) : Quantity.valuesAt v (xs.map fun x =>
      .product [.integer (coefficient x), .symbol x] (.ok "")) =
        some (xs.map fun x => coefficient x * v x) := by
    induction xs with
    | nil => rfl
    | cons x xs ih => simp [Quantity.valuesAt, Quantity.valueAt, ih]
  have hfilter : ((names.filter fun x => coefficient x ≠ 0).map fun x => coefficient x * v x).sum =
      (names.map fun x => coefficient x * v x).sum := by
    induction names with
    | nil => rfl
    | cons x names ih =>
      by_cases hx : coefficient x = 0
      · simp [hx, ← ih]
      · simp [hx, ← ih]
  rw [quantity, Quantity.valueAt, Quantity.valuesAt, hvalues, ← hfilter]
  rfl

end Calculator

/-- The algebra in which right sides are put into a calculator. -/
def calculator : Algebra (List String) where
  start names := names
  evaluate right := fun names =>
    let value := Calculator.valueAt right
    (if right.filterMap Atom.name? = [] then .foreign "'int' object" "is_Integer"
      else .quantity (Calculator.quantity names (value 0) fun x => value (Pi.single x 1) - value 0),
      names)

theorem Denotes.names_eq (h : Separable names) {right : List Char} {t : Term}
    (hright : Denotes names right t) :
    (atomsFrom names 0 right).filterMap Atom.name? = t.names := by
  have hsolid (as : List Atom) :
      (as.filter Atom.isSolid).filterMap Atom.name? = as.filterMap Atom.name? := by
    rw [filterMap_filter]
    congr 1
    funext a
    cases a with
    | char c => exact ite_self _
    | name x => rfl
  obtain ⟨ls, hspaced, hls⟩ := hright
  rw [← hsolid, hspaced.filter_isSolid h hls.over hls.framed.chain, hls.names_eq]

theorem Denotes.mem_names {right : List Char} {t : Term} (hright : Denotes names right t) :
    ∀ x ∈ t.names, x ∈ names := by
  obtain ⟨ls, -, hls⟩ := hright
  exact hls.mem_names

theorem exact_calculator (h : Separable names) : calculator.Exact names := by
  have hfirst {right : List Char} {t : Term} (hright : Denotes names right t) :
      calculator.first names (atomsFrom names 0 right) =
        if t.names = [] then .foreign "'int' object" "is_Integer"
        else .quantity (Calculator.quantity names t.constant t.coefficient) := by
    have hvalue := Calculator.valueAt_eq h hright
    rw [← hright.names_eq h, calculator, Algebra.first]
    dsimp only [StateT.run]
    rw [hvalue]
    rfl
  have hquantity {right : List Char} {t : Term} {q : Quantity} (hright : Denotes names right t)
      (hq : calculator.first names (atomsFrom names 0 right) = .quantity q) :
      q = Calculator.quantity names t.constant t.coefficient := by
    rw [hfirst hright] at hq
    split at hq
    · cases hq
    · exact (Evaluated.quantity.inj hq).symm
  refine ⟨fun hright hnames => ?_, fun hright _ hnames => ?_, fun hright ht hq v => ?_,
    fun hright _ hq => ?_⟩
  · rw [hfirst hright, if_pos hnames]
  · exact ⟨_, by rw [hfirst hright, if_neg hnames]⟩
  · rw [hquantity hright hq]
    rw [Calculator.valueAt_quantity, Term.value_eq ht v (S := names.toFinset) fun x hx =>
      mem_toFinset.2 (hright.mem_names x hx), sum_toFinset _ h.nodup]
  · rw [hquantity hright hq]
    exact Calculator.isCollected_quantity h.nodup

end DataDiagram.Assignment
