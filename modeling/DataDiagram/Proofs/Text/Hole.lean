import DataDiagram.Text.Template
/-!
# Templates with one hole

A template whose only braces are those of one empty field is filled by putting the text where the
field stands.  Contexts of applications are such templates as long as names hold no braces.
-/

namespace DataDiagram.Text

open List

def Braceless (s : List Char) : Prop := '{' ∉ s ∧ '}' ∉ s

@[simp] theorem braceless_nil : Braceless [] := by simp [Braceless]

variable {c : Char} {s old : List Char}

@[simp] theorem braceless_cons : Braceless (c :: s) ↔ (c ≠ '{' ∧ c ≠ '}') ∧ Braceless s := by
  simp only [Braceless, mem_cons, not_or, ne_eq, eq_comm (a := c)]
  exact and_and_and_comm

@[simp] theorem braceless_append {t : List Char} :
    Braceless (s ++ t) ↔ Braceless s ∧ Braceless t := by
  simp only [Braceless, mem_append, not_or]
  exact and_and_and_comm

/-- A template with one empty field, which stands between two texts without braces. -/
def OneHole (template : List Char) : Prop :=
  ∃ before after, template = before ++ '{' :: '}' :: after ∧ Braceless before ∧ Braceless after

/-! ## Filling -/

theorem nextPiece_braceless_append (hs : Braceless s) (seen t : List Char) :
    nextPiece seen (s ++ t) = nextPiece (s.reverse ++ seen) t := by
  induction s generalizing seen with
  | nil => rfl
  | cons c s ih =>
    rw [braceless_cons] at hs
    have hstep : nextPiece seen (c :: (s ++ t)) = nextPiece (c :: seen) (s ++ t) := by
      rw [nextPiece] <;> simp [hs.1]
    rw [cons_append, hstep, ih hs.2, reverse_cons, append_assoc]
    rfl

theorem nextPiece_braceless (hs : Braceless s) : nextPiece [] s = .ok (s, none, []) := by
  have h := nextPiece_braceless_append hs [] []
  simpa [nextPiece] using h

variable {before : List Char}

theorem nextPiece_hole (hbefore : Braceless before) (after : List Char) :
    nextPiece [] (before ++ '{' :: '}' :: after) =
      .ok (before, some ⟨[], none, [], false⟩, after) := by
  rw [nextPiece_braceless_append hbefore]
  simp [nextPiece, scanField, bind, Except.bind, pure, Except.pure]

theorem fillFrom_braceless (hs : Braceless s) (args : List (List Char))
    (depth fuel : Nat) (numbering : FieldNumbering) :
    fillFrom args (depth + 1) (fuel + 2) numbering s = .ok (s, numbering) := by
  cases s with
  | nil => simp [fillFrom]
  | cons c s =>
    simp [fillFrom, nextPiece_braceless hs, bind, Except.bind, pure, Except.pure]

theorem fieldValue_hole (arg : List Char) :
    fieldValue [arg] [] .undecided = .ok (.text arg, .automatic 1) := by
  rfl

theorem fill_hole {after : List Char} (hbefore : Braceless before)
    (hafter : Braceless after) (arg : List Char) :
    fill (before ++ '{' :: '}' :: after) arg = .ok (before ++ arg ++ after) := by
  have hlen : (before ++ '{' :: '}' :: after).length = before.length + after.length + 1 + 1 := by
    simp only [length_append, length_cons]
    omega
  have hrest := fillFrom_braceless hafter [arg] 1 (before.length + after.length) (.automatic 1)
  rw [fill, hlen, fillFrom, if_neg (by simp)]
  simp [nextPiece_hole hbefore, fieldValue_hole, convert, layOutValue, layOut, hrest, bind,
    Except.bind, pure, Except.pure, Functor.map, Except.map]
  rfl

/-- What fills the hole keeps it a single one if it brings one itself. -/
theorem OneHole.fill_eq {template arg : List Char} (ht : OneHole template) (ha : OneHole arg) :
    ∃ filled, fill template arg = .ok filled ∧ OneHole filled := by
  obtain ⟨before, after, rfl, hbefore, hafter⟩ := ht
  obtain ⟨before', after', rfl, hbefore', hafter'⟩ := ha
  refine ⟨_, fill_hole hbefore hafter _, before ++ before', after' ++ after, ?_, ?_, ?_⟩
  · simp
  · exact braceless_append.2 ⟨hbefore, hbefore'⟩
  · exact braceless_append.2 ⟨hafter', hafter⟩

/-! ## Replacing -/

/-- A character outside the text to be replaced ends every occurrence. -/
theorem isPrefixOf_append_cons (hc : c ∉ old) (s t : List Char) :
    old.isPrefixOf (s ++ c :: t) = old.isPrefixOf s := by
  induction old generalizing s with
  | nil => simp
  | cons d old ih =>
    rw [mem_cons, not_or] at hc
    cases s with
    | nil => simp [List.isPrefixOf, Ne.symm hc.1]
    | cons e s => simp [List.isPrefixOf, ih hc.2]

theorem replaceFrom_append_cons (hc : c ∉ old) (new : List Char)
    (skip : Nat) (s t : List Char) (hskip : skip ≤ s.length) :
    replaceFrom old new skip (s ++ c :: t) =
      replaceFrom old new skip s ++ c :: replaceFrom old new 0 t := by
  induction s generalizing skip with
  | nil =>
    obtain rfl : skip = 0 := by simpa using hskip
    have hfront : old.isPrefixOf (c :: t) = old.isPrefixOf [] :=
      isPrefixOf_append_cons hc [] t
    cases old with
    | nil => simp [replaceFrom]
    | cons d old => simp [replaceFrom, hfront]
  | cons d s ih =>
    cases skip with
    | succ skip =>
      rw [length_cons] at hskip
      simpa [replaceFrom] using ih skip (by omega)
    | zero =>
      have hfront : old.isPrefixOf (d :: (s ++ c :: t)) = old.isPrefixOf (d :: s) :=
        isPrefixOf_append_cons hc (d :: s) t
      by_cases h : (!old.isEmpty && old.isPrefixOf (d :: s)) = true
      · have hlen : old.length ≤ (d :: s).length := by
          rw [Bool.and_eq_true, isPrefixOf_iff_prefix] at h
          exact h.2.length_le
        rw [length_cons] at hlen
        simp only [cons_append, replaceFrom, hfront, if_pos h,
          ih (old.length - 1) (by omega), append_assoc]
      · simp only [cons_append, replaceFrom, hfront, if_neg h, ih 0 (Nat.zero_le _)]

theorem mem_replaceFrom {new : List Char} {skip : Nat}
    (h : c ∈ replaceFrom old new skip s) : c ∈ new ∨ c ∈ s := by
  induction s generalizing skip with
  | nil => simp [replaceFrom] at h
  | cons d s ih =>
    cases skip with
    | succ skip => exact (ih h).imp_right (mem_cons_of_mem d)
    | zero =>
      rw [replaceFrom] at h
      split at h
      · rcases mem_append.1 h with h | h
        · exact .inl h
        · exact (ih h).imp_right (mem_cons_of_mem d)
      · rcases mem_cons.1 h with h | h
        · exact .inr (h ▸ mem_cons_self)
        · exact (ih h).imp_right (mem_cons_of_mem d)

theorem Braceless.replaceAll {old new s : List Char} (hnew : Braceless new) (hs : Braceless s) :
    Braceless (replaceAll old new s) :=
  ⟨fun h => (mem_replaceFrom h).elim hnew.1 hs.1, fun h => (mem_replaceFrom h).elim hnew.2 hs.2⟩

/-- Replacing one text without braces by another leaves the hole. -/
theorem OneHole.replaceAll {old new template : List Char} (hold : Braceless old)
    (hnew : Braceless new) (ht : OneHole template) : OneHole (replaceAll old new template) := by
  obtain ⟨before, after, rfl, hbefore, hafter⟩ := ht
  refine ⟨Text.replaceAll old new before, Text.replaceAll old new after, ?_,
    hnew.replaceAll hbefore, hnew.replaceAll hafter⟩
  have hclose := replaceFrom_append_cons hold.2 new 0 [] after (Nat.zero_le _)
  rw [Text.replaceAll, replaceFrom_append_cons hold.1 new 0 _ _ (Nat.zero_le _)]
  simpa [Text.replaceAll, replaceFrom] using hclose

end DataDiagram.Text
