import DataDiagram.Proofs.Assignment.Structure
import DataDiagram.Static.RightSide
import Mathlib.Data.List.TakeWhile
/-!
# The anatomy of assignment texts

A text is an assignment exactly if it can be cut into blanks, a variable, blanks, an operator,
blanks and a right side.  There is one way to cut it at most, and its parts are what the reader
gives back.
-/

namespace DataDiagram.Assignment

open List

/-- The parts of an assignment text, and whether the end of a line follows them. -/
structure Anatomy where
  before : List Char
  left : String
  between : List Char
  op : Operator
  after : List Char
  right : List Atom
  ended : Bool

namespace Anatomy

def atoms (a : Anatomy) : List Atom :=
  a.before.map .char ++ .name a.left :: (a.between.map .char ++ (a.op.text.toList.map .char ++
    (a.after.map .char ++ (a.right ++ ending a.ended))))

structure Valid (a : Anatomy) : Prop where
  before : ∀ c ∈ a.before, Text.isBlank c = true
  between : ∀ c ∈ a.between, Text.isBlank c = true
  after : ∀ c ∈ a.after, Text.isBlank c = true
  right : IsRight a.right

namespace Valid

variable {a b : Anatomy}

theorem rightSide?_eq (h : a.Valid) :
    rightSide? a.op
    (a.op.text.toList.map .char ++ (a.after.map .char ++ (a.right ++ ending a.ended))) =
      some a.right :=
  rightSide?_eq_some_iff.2 ⟨h.right, a.after, a.ended, h.after, rfl⟩

theorem dropWhile_op (op : Operator) (rest : List Atom) :
    (op.text.toList.map Atom.char ++ rest).dropWhile Atom.isBlank = op.text.toList.map .char ++
    rest := by
  cases op <;> simp [Operator.text] <;> rfl

theorem shape?_eq (h : a.Valid) {names : List String} (hne : names ≠ []) {text : String}
    (ha : a.atoms = Assignment.atoms names text) :
    shape? names text = some ⟨some a.left, a.op, a.right⟩ := by
  have hstart := dropWhile_isBlank_append h.before (.name a.left :: (a.between.map .char ++
    (a.op.text.toList.map .char ++ (a.after.map .char ++ (a.right ++ ending a.ended)))))
  rw [dropWhile_cons_of_neg (by simp [Atom.isBlank]), ← atoms, ha] at hstart
  refine shape?_of_name hne hstart ?_
  rw [dropWhile_isBlank_append h.between, dropWhile_op]
  exact operation?_eq_some_iff.2 h.rightSide?_eq

/-- What follows some blanks tells how many they are. -/
theorem blanks_inj {cs ds : List Char} (hcs : ∀ c ∈ cs, Text.isBlank c = true)
    (hds : ∀ c ∈ ds, Text.isBlank c = true) {as bs : List Atom}
    (has : as.dropWhile Atom.isBlank = as)
    (hbs : bs.dropWhile Atom.isBlank = bs) (h : cs.map Atom.char ++ as = ds.map Atom.char ++ bs) :
    cs = ds ∧ as = bs := by
  have heq : as = bs := by
    rw [← has, ← dropWhile_isBlank_append hcs as, h, dropWhile_isBlank_append hds, hbs]
  rw [heq, append_cancel_right_eq] at h
  exact ⟨map_injective_iff.2 (fun _ _ => Atom.char.inj) h, heq⟩

theorem eq (ha : a.Valid) (hb : b.Valid) (h : a.atoms = b.atoms) : a = b := by
  obtain ⟨hbefore, hrest⟩ :=
    blanks_inj ha.before hb.before (dropWhile_cons_of_neg (by simp [Atom.isBlank]))
    (dropWhile_cons_of_neg (by simp [Atom.isBlank])) h
  rw [List.cons.injEq, Atom.name.injEq] at hrest
  obtain ⟨hleft, hrest⟩ := hrest
  obtain ⟨hbetween, hrest⟩ :=
    blanks_inj ha.between hb.between (dropWhile_op _ _) (dropWhile_op _ _) hrest
  have hfound := operation?_eq_some_iff.2 ha.rightSide?_eq
  rw [hrest, operation?_eq_some_iff.2 hb.rightSide?_eq, Option.some.injEq, Prod.mk.injEq] at hfound
  obtain ⟨hop, hright⟩ := hfound
  rw [hop, append_cancel_left_eq] at hrest
  obtain ⟨hafter, hrest⟩ := blanks_inj ha.after hb.after (ha.right.dropWhile_isBlank _)
    (hb.right.dropWhile_isBlank _) hrest
  have hended : a.ended = b.ended := by
    rw [hright, append_cancel_left_eq] at hrest
    revert hrest
    cases a.ended <;> cases b.ended <;> simp [ending]
  cases a
  cases b
  simp_all only

end Valid

end Anatomy

variable {names : List String} {text : String}

theorem exists_anatomy (hne : names ≠ [])
    (h : shape? names text ≠ none) : ∃ a : Anatomy, a.Valid ∧ a.atoms = atoms names text := by
  obtain ⟨before, hbefore, hstart⟩ := exists_blanks (atoms names text)
  unfold shape? at h
  dsimp only at h
  split at h
  · exact absurd rfl hne
  · next n rest _ heq =>
    obtain ⟨between, hbetween, hrest⟩ := exists_blanks rest
    cases hop : operation? (rest.dropWhile Atom.isBlank) with
    | none => simp [hop] at h
    | some found =>
      obtain ⟨hright, after, ended, hafter, hsplit⟩ :=
        rightSide?_eq_some_iff.1 (operation?_eq_some_iff.1 hop)
      refine ⟨⟨before, n, between, found.1, after, found.2, ended⟩,
        ⟨hbefore, hbetween, hafter, hright⟩, ?_⟩
      rw [Anatomy.atoms, ← hsplit, ← hrest, ← heq, ← hstart]
  · exact absurd rfl h

/-! ## Reading -/

/-- A number in positional notation. -/
def IsDecimal (cs : List Char) : Prop := cs ≠ [] ∧ ∀ c ∈ cs, (Text.decimalValue? c).isSome = true

/-- Whether a table has all code points from `low` to `high` in one range. -/
def covers (low high : Nat) : Text.CharTable → Bool
  | [] => false
  | (lo, hi) :: rest => if hi < low then covers low high rest else lo ≤ low && high ≤ hi

theorem hasCode_of_covers {low high n : Nat} {table : Text.CharTable}
    (h : covers low high table = true)
    (hlow : low ≤ n) (hhigh : n ≤ high) : table.hasCode n = true := by
  induction table with
  | nil => exact nomatch h
  | cons range table ih =>
    obtain ⟨lo, hi⟩ := range
    rw [covers] at h
    rw [Text.CharTable.hasCode]
    split at h
    · rw [if_pos (by omega)]
      exact ih h
    · rw [Bool.and_eq_true, decide_eq_true_eq, decide_eq_true_eq] at h
      rw [if_neg (by omega), decide_eq_true_eq]
      omega

theorem isNumeral_of_decimal {c : Char} (hc : (Text.decimalValue? c).isSome = true) :
    Text.isNumeral c = true := by
  have hall : ∀ z ∈ Text.decimalZeros, covers z (z + 9) Text.numeralTable = true := by
    decide +kernel
  unfold Text.decimalValue? at hc
  unfold Text.isNumeral
  dsimp only at hc
  split at hc
  · next hascii =>
    rw [if_pos hascii]
    by_contra hdigit
    simp [hdigit] at hc
  · next hascii =>
    rw [if_neg hascii, Text.CharTable.contains]
    rw [Option.isSome_map, List.find?_isSome] at hc
    obtain ⟨z, hz, hrange⟩ := hc
    rw [Bool.and_eq_true, decide_eq_true_eq, decide_eq_true_eq] at hrange
    exact hasCode_of_covers (hall z hz) hrange.1 (by omega)

namespace IsDecimal

variable {cs : List Char}

theorem numeral?_eq (h : IsDecimal cs) : numeral? (cs.map .char) = some cs := by
  have hchars (ds : List Char) : chars? (ds.map .char) = some ds := by
    induction ds with
    | nil => rfl
    | cons d ds ih => simp [chars?, ih]
  have hall : cs.all Text.isNumeral = true :=
    all_eq_true.2 fun c hc => isNumeral_of_decimal (h.2 c hc)
  rw [numeral?, hchars, Option.bind_eq_bind, Option.bind_some, hall]
  simp [h.1]

theorem exists_decimalNumber? (h : IsDecimal cs) : ∃ n, Text.decimalNumber? cs = some n := by
  have hfold (ds : List Char) (hds : ∀ c ∈ ds, (Text.decimalValue? c).isSome = true) (acc : Nat) :
      ∃ n, ds.foldlM (fun acc c => (Text.decimalValue? c).map (acc * 10 + ·)) acc = some n := by
    induction ds generalizing acc with
    | nil => exact ⟨acc, rfl⟩
    | cons d ds ih =>
      rw [forall_mem_cons] at hds
      obtain ⟨v, hv⟩ := Option.isSome_iff_exists.1 hds.1
      obtain ⟨n, hn⟩ := ih hds.2 (acc * 10 + v)
      exact ⟨n, by simp [foldlM_cons, hv, hn]⟩
  obtain ⟨n, hn⟩ := hfold cs h.2 0
  refine ⟨n, ?_⟩
  cases cs with
  | nil => exact absurd rfl h.1
  | cons c cs => exact hn

theorem numeralValue_eq (h : IsDecimal cs) {n : Nat} (hn : Text.decimalNumber? cs = some n) :
    numeralValue cs = if Datum.maxDigits < cs.length then .error (.tooManyDigits cs.length)
    else .ok n := by
  have htake : cs.takeWhile (fun c => (Text.decimalValue? c).isSome) = cs :=
    takeWhile_eq_self_iff.2 h.2
  rw [numeralValue, htake, hn]

end IsDecimal

variable {σ : Type} (A : Algebra σ)

theorem linear_ne_wrongStructure (s : Session σ) (right : List Atom) (text : String) :
    (s.linear A right).1 ≠ .error (.wrongStructure text) := by
  have hform : (s.linear A right).1 = formOf right ((A.evaluate right).run s.state).1 := rfl
  rw [hform]
  unfold formOf
  split
  · next q _ => cases LinearForm.ofQuantity q <;> simp [Except.mapError]
  · simp
  · simp
  · simp

theorem expression_ne_wrongStructure (s : Session σ) (text left : String) (op : Operator)
    (right : List Atom)
    (t : String) : (s.expression A text left op right).1 ≠ .error (.wrongStructure t) := by
  have hlinear := linear_ne_wrongStructure A s right t
  cases op <;> simp only [Session.expression, ne_eq, Except.error.injEq, reduceCtorEq,
    not_false_eq_true]
  all_goals cases hform : (s.linear A right).1 <;> simp_all [Except.map]

theorem left_of_expression {s : Session σ} {left : String} {op : Operator} {right : List Atom}
    {r : Assignment} (h : (s.expression A text left op right).1 = .ok r) : r.left = left := by
  cases op <;> simp only [Session.expression, reduceCtorEq] at h
  all_goals
    cases hform : (s.linear A right).1 <;> rw [hform] at h <;> cases h
    rfl

/-- A right side is a numeral, a variable or an expression. -/
theorem read_cases {left : String} {op : Operator} {right : List Atom}
    (h : shape? names text = some ⟨some left, op, right⟩) :
    (∃ digits, numeral? right = some digits ∧
      read A names text = (numeralValue digits).map fun n => ⟨left, op, .int n⟩) ∨
    (∃ m, right = [.name m] ∧ read A names text = .ok ⟨left, op, .var m⟩) ∨
    numeral? right = none ∧ (∀ m, right ≠ [.name m]) ∧
      read A names text = ((Session.start A names).expression A text left op right).1 := by
  have hnames : (Session.start A names).names = names := rfl
  rw [read, Session.read, hnames, h]
  dsimp only
  split
  · next digits hdigits =>
    exact .inl ⟨digits, hdigits, by cases numeralValue digits <;> rfl⟩
  · next hnone =>
    split
    · next m => exact .inr (.inl ⟨m, rfl, rfl⟩)
    · next hother => exact .inr (.inr ⟨hnone, hother, rfl⟩)

theorem read_decimal (hne : names ≠ []) {a : Anatomy} (h : a.Valid)
    (ha : a.atoms = atoms names text) {cs : List Char} (hcs : a.right = cs.map .char)
    (hdecimal : IsDecimal cs) :
    ∃ n, Text.decimalNumber? cs = some n ∧
      read A names text = if Datum.maxDigits < cs.length then .error (.tooManyDigits cs.length)
        else .ok ⟨a.left, a.op, .int n⟩ := by
  obtain ⟨n, hn⟩ := hdecimal.exists_decimalNumber?
  have hcases := read_cases A (h.shape?_eq hne ha)
  rw [hcs] at hcases
  rcases hcases with ⟨digits, hdigits, hread⟩ | ⟨m, hm, -⟩ | ⟨hnone, -⟩
  · obtain rfl := Option.some.inj (hdigits.symm.trans hdecimal.numeral?_eq)
    refine ⟨n, hn, ?_⟩
    rw [hread, hdecimal.numeralValue_eq hn]
    split <;> rfl
  · cases cs <;> simp at hm
  · rw [hdecimal.numeral?_eq] at hnone
    cases hnone

/-- A text has an assignment's structure exactly if it is blanks, a variable, blanks, an operator,
blanks and a right side, and perhaps the end of the line.  It is so in one way only: the variable is
what is read on the left, and an operator before a decimal number or a single variable is read as it
stands. -/
theorem read_anatomy {names : List String} (hne : names ≠ []) (text : String) :
    (read A names text ≠ .error (.wrongStructure text) ↔
      ∃ a : Anatomy, a.Valid ∧ a.atoms = atoms names text) ∧
    ∀ a : Anatomy, a.Valid → a.atoms = atoms names text →
      (∀ b : Anatomy, b.Valid → b.atoms = atoms names text → b = a) ∧
      (∀ r, read A names text = .ok r → r.left = a.left) ∧
      (∀ m, a.right = [.name m] → read A names text = .ok ⟨a.left, a.op, .var m⟩) ∧
      ∀ cs, a.right = cs.map .char → IsDecimal cs → ∃ n, Text.decimalNumber? cs = some n ∧
        read A names text = if Datum.maxDigits < cs.length then .error (.tooManyDigits cs.length)
          else .ok ⟨a.left, a.op, .int n⟩ := by
  refine ⟨⟨fun h => exists_anatomy hne fun hshape => h ?_, ?_⟩, fun a hvalid hatoms => ?_⟩
  · have hnames : (Session.start A names).names = names := rfl
    rw [read, Session.read, hnames, hshape]
  · rintro ⟨a, hvalid, hatoms⟩
    rcases read_cases A (hvalid.shape?_eq hne hatoms)
      with ⟨digits, -, hread⟩ | ⟨m, -, hread⟩ | ⟨-, -, hread⟩
    · rw [hread, numeralValue]
      split
      · simp [Except.map]
      · split <;> simp [Except.map]
    · simp [hread]
    · rw [hread]
      exact expression_ne_wrongStructure A _ _ _ _ _ _
  · have hcases := read_cases A (hvalid.shape?_eq hne hatoms)
    refine ⟨fun b hb hbatoms => hb.eq hvalid (hbatoms.trans hatoms.symm), fun r hr => ?_,
      fun m hm => ?_,
      fun cs hcs hdecimal => ?_⟩
    · rcases hcases with ⟨digits, -, hread⟩ | ⟨m, -, hread⟩ | ⟨-, -, hread⟩ <;> rw [hread] at hr
      · cases hvalue : numeralValue digits <;> rw [hvalue] at hr <;> cases hr
        rfl
      · cases hr
        rfl
      · exact left_of_expression A hr
    · rw [hm] at hcases
      rcases hcases with ⟨digits, hdigits, -⟩ | ⟨m', hm', hread⟩ | ⟨-, hother, -⟩
      · exact nomatch hdigits
      · cases hm'
        exact hread
      · exact absurd rfl (hother m)
    · exact read_decimal A hne hvalid hatoms hcs hdecimal

/-- The operator is the longest one here, and the line ends on both sides of the right side. -/
theorem read_anatomy_equal :
    read (Static.algebra []) ["x", "y"] " x ==\n y\n" = .ok ⟨"x", .equal, .var "y"⟩ :=
  ((read_anatomy _ (by decide) _).2
    ⟨[' '], "x", [' '], .equal, ['\n', ' '], [.name "y"], true⟩
    ⟨by decide, by decide, by decide, ⟨_, _, rfl, rfl⟩, by decide⟩ (by decide)).2.2.1 "y" rfl

/-- An assignment of a number with many digits. -/
def zeros (n : Nat) : String := String.ofList ('x' :: ' ' :: '=' :: ' ' :: replicate n '0')

theorem read_zeros {n : Nat} (h : Datum.maxDigits < n) :
    read A ["x"] (zeros n) = .error (.tooManyDigits n) := by
  have hrest (n : Nat) : atomsFrom ["x"] 0 (replicate n '0') = (replicate n '0').map .char := by
    induction n with
    | zero => rfl
    | succ n ih =>
      rw [replicate_succ, map_cons, ← ih]
      rfl
  obtain ⟨n, rfl⟩ := Nat.exists_eq_add_one_of_ne_zero (Nat.ne_zero_of_lt h)
  have hdecimal : IsDecimal (replicate (n + 1) '0') :=
    ⟨cons_ne_nil _ _, fun c hc => eq_of_mem_replicate hc ▸ rfl⟩
  have hblank : ∀ c ∈ [' '], Text.isBlank c = true := by decide
  have hvalid :
      (⟨[], "x", [' '], .assign, [' '], (replicate (n + 1) '0').map .char,
        false⟩ : Anatomy).Valid :=
    ⟨forall_mem_nil _, hblank, hblank, ⟨_, _, rfl, rfl⟩, by simp⟩
  have hatoms :
      Anatomy.atoms ⟨[], "x", [' '], .assign, [' '], (replicate (n + 1) '0').map .char, false⟩ =
      atoms ["x"] (zeros (n + 1)) := by
    rw [atoms, zeros, String.toList_ofList, ← hrest]
    have hlength : "x".length - 1 = 0 := rfl
    simp [Anatomy.atoms, ending, Operator.text, atomsFrom, nameAt?, hlength]
  obtain ⟨m, -, hread⟩ := read_decimal A (by decide) hvalid hatoms rfl hdecimal
  rw [hread, length_replicate, if_pos h]

/-- A number of too many digits has the structure of an assignment, and is not read. -/
theorem read_anatomy_long :
    read (Static.algebra []) ["x"] (zeros 4301) = .error (.tooManyDigits 4301) :=
  read_zeros _ (by decide)

end DataDiagram.Assignment
