import DataDiagram.Proofs.Assignment.Structure
import DataDiagram.Static.RightSide
/-!
# Names as atoms

Where a text goes on with a name, the first listed name that it starts with is read, be it only a
part of the name.  So a name is read as a whole exactly if no name that is listed before it is a
start of it, and an operator between two names is read as such exactly if this holds of both.
-/

namespace DataDiagram.Assignment

open List

/-- Whether no name that is listed before `n` is a start of it. -/
def Unshadowed (names : List String) (n : String) : Prop :=
  ∀ x ∈ names.takeWhile (· != n), ¬ x.toList <+: n.toList

instance Unshadowed.instDecidable (names : List String) (n : String) :
    Decidable (Unshadowed names n) :=
  inferInstanceAs (Decidable (∀ x ∈ names.takeWhile (· != n), ¬ x.toList <+: n.toList))

variable {names : List String} {n m : String}

theorem nameAt?_eq_some_iff (hn : n ∈ names) :
    nameAt? names n.toList = some n ↔ Unshadowed names n := by
  induction names with
  | nil => exact absurd hn not_mem_nil
  | cons x names ih =>
    by_cases hx : x = n
    · subst hx
      simp [nameAt?, Unshadowed]
    · have htake : (x :: names).takeWhile (· != n) = x :: names.takeWhile (· != n) :=
        takeWhile_cons_of_pos (by simpa using hx)
      have hrest := ih ((mem_cons.1 hn).resolve_left (Ne.symm hx))
      rw [Unshadowed, htake, forall_mem_cons, ← Unshadowed, ← hrest, nameAt?, List.find?_cons]
      by_cases hfront : x.toList <+: n.toList
      · have hfits : x.toList.isPrefixOf n.toList = true := isPrefixOf_iff_prefix.2 hfront
        simp [hfits, hfront, hx]
      · have hfits : x.toList.isPrefixOf n.toList = false := by
          rw [Bool.eq_false_iff, Ne, isPrefixOf_iff_prefix]
          exact hfront
        simp [hfits, hfront, nameAt?]

variable {c : Char} {x : String}

theorem isIdentifierContinue_of_mem (hx : Text.isIdentifier x.toList = true)
    (hc : c ∈ x.toList) : Text.isIdentifierStart c = true ∨ Text.isIdentifierContinue c = true := by
  obtain ⟨d, ds, hds, hstart, hmore⟩ := exists_cons_of_isIdentifier hx
  rw [hds] at hc
  rcases mem_cons.1 hc with rfl | hc
  · exact .inl hstart
  · exact .inr (hmore c hc)

theorem not_mem_of_isIdentifier (hx : Text.isIdentifier x.toList = true)
    (hstart : Text.isIdentifierStart c = false) (hmore : Text.isIdentifierContinue c = false) :
    c ∉ x.toList := by
  intro hc
  rcases isIdentifierContinue_of_mem hx hc with h | h
  · rw [hstart] at h
    exact Bool.false_ne_true h
  · rw [hmore] at h
    exact Bool.false_ne_true h

/-- A blank after a text makes no difference to the name that the text starts with. -/
theorem nameAt?_append_blank (hnames : ∀ x ∈ names, Text.isIdentifier x.toList = true)
    (cs rest : List Char) : nameAt? names (cs ++ ' ' :: rest) = nameAt? names cs := by
  have hiff : ∀ x ∈ names, x.toList <+: cs ++ ' ' :: rest ↔ x.toList <+: cs := by
    intro x hx
    refine ⟨fun hfront => ?_, fun hfront => hfront.trans (prefix_append _ _)⟩
    rcases prefix_or_prefix_of_prefix hfront (prefix_append cs (' ' :: rest)) with
      hinside | ⟨more, hmore⟩
    · exact hinside
    · cases more with
      | nil => rw [← hmore, append_nil]
      | cons c more =>
        rw [← hmore, prefix_append_right_inj, cons_prefix_cons] at hfront
        have hblank : ' ' ∈ x.toList := by simp [← hmore, hfront.1]
        exact absurd hblank (not_mem_of_isIdentifier (hnames x hx) (by decide) (by decide))
  clear hnames
  induction names with
  | nil => rfl
  | cons x names ih =>
    rw [forall_mem_cons] at hiff
    have hfits : x.toList.isPrefixOf (cs ++ ' ' :: rest) = x.toList.isPrefixOf cs := by
      rw [Bool.eq_iff_iff, isPrefixOf_iff_prefix, isPrefixOf_iff_prefix, hiff.1]
    have hmore := ih hiff.2
    rw [nameAt?, nameAt?] at hmore
    rw [nameAt?, nameAt?, List.find?_cons, List.find?_cons, hfits, hmore]

/-- A listed name is read as the first name that is a start of it, and the rest goes on from
there. -/
theorem exists_nameAt? (hn : n ∈ names) : ∃ k cs, nameAt? names n.toList = some k ∧
    n.toList = k.toList ++ cs ∧ (cs = [] ↔ Unshadowed names n) := by
  cases hfound : nameAt? names n.toList with
  | none =>
    rw [nameAt?, List.find?_eq_none] at hfound
    exact absurd ( isPrefixOf_iff_prefix.2 (prefix_refl _)) (hfound n hn)
  | some k =>
    have hfits := List.find?_some hfound
    obtain ⟨cs, hcs⟩ := isPrefixOf_iff_prefix.1 hfits
    refine ⟨k, cs, rfl, hcs.symm, ?_⟩
    rw [← nameAt?_eq_some_iff hn, hfound, Option.some.injEq]
    constructor
    · rintro rfl
      rw [append_nil] at hcs
      exact String.toList_inj.1 hcs
    · rintro rfl
      exact append_cancel_left (hcs.trans (append_nil _).symm)

theorem atomsFrom_listed (hnames : ∀ x ∈ names, Text.isIdentifier x.toList = true) {k : String}
    {cs : List Char} (hk : nameAt? names n.toList = some k) (hcs : n.toList = k.toList ++ cs) :
    atomsFrom names 0 n.toList = .name k :: atomsFrom names 0 cs ∧
      ∀ rest, atomsFrom names 0 (n.toList ++ ' ' :: rest) =
        .name k :: atomsFrom names 0 (cs ++ ' ' :: rest) := by
  have hid : Text.isIdentifier k.toList = true := hnames k (mem_of_find?_eq_some hk)
  refine ⟨?_, fun rest => ?_⟩
  · rw [hcs] at hk ⊢
    exact atomsFrom_of_nameAt? hid hk
  · rw [← nameAt?_append_blank hnames n.toList rest, hcs, append_assoc] at hk
    rw [hcs, append_assoc]
    exact atomsFrom_of_nameAt? hid hk

theorem exists_atomsFrom_cons (names : List String) (c : Char) (rest : List Char) :
    ∃ a as, atomsFrom names 0 (c :: rest) = a :: as ∧ (a = .char c ∨ ∃ x, a = .name x) := by
  rw [atomsFrom]
  split
  · exact ⟨_, _, rfl, .inr ⟨_, rfl⟩⟩
  · dsimp only
    split
    · exact ⟨_, _, rfl, .inr ⟨_, rfl⟩⟩
    · exact ⟨_, _, rfl, .inl rfl⟩

/-! ## Operators between names -/

theorem not_isBlank_of_isIdentifierContinue (hc : Text.isIdentifierContinue c = true) :
    Text.isBlank c = false := by
  have hall : ∀ code ∈ blankCodes, Text.isIdentifierContinue (Char.ofNat code) = false := by
    decide +kernel
  refine Bool.eq_false_iff.2 fun hblank => ?_
  have hfalse := hall c.toNat (toNat_mem_blankCodes hblank)
  rw [Char.ofNat_toNat, hc] at hfalse
  exact Bool.false_ne_true hfalse.symm

theorem operation?_of_continue (hc : Text.isIdentifierContinue c = true) (names : List String)
    (rest : List Char) :
    operation? ((atomsFrom names 0 (c :: rest)).dropWhile Atom.isBlank) = none := by
  obtain ⟨a, as, hatoms, ha⟩ := exists_atomsFrom_cons names c rest
  have hblank : a.isBlank = false := by
    rcases ha with rfl | ⟨x, rfl⟩
    · exact not_isBlank_of_isIdentifierContinue hc
    · rfl
  rw [hatoms, dropWhile_cons_of_neg (by simp [hblank]), Option.eq_none_iff_forall_ne_some]
  rintro ⟨op, right⟩ hop
  obtain ⟨-, gap, ended, -, heq⟩ := rightSide?_eq_some_iff.1 (operation?_eq_some_iff.1 hop)
  obtain ⟨d, ds, hds, hd⟩ :
      ∃ d ds, op.text.toList = d :: ds ∧ Text.isIdentifierContinue d = false := by
    cases op <;> exact ⟨_, _, rfl, by decide⟩
  rw [hds, map_cons, cons_append, List.cons.injEq] at heq
  rcases ha with rfl | ⟨x, rfl⟩
  · rw [← Atom.char.inj heq.1, hc] at hd
    exact Bool.false_ne_true hd.symm
  · exact nomatch heq.1

/-! ## Reading -/

theorem toList_between (n m : String) (op : Operator) : (n ++ " " ++ op.text ++ " " ++ m).toList =
      n.toList ++ ' ' :: (op.text.toList ++ ' ' :: m.toList) := by
  simp

theorem shape?_of_shadowed (hnames : ∀ x ∈ names, Text.isIdentifier x.toList = true)
    (hn : n ∈ names) (hshadowed : ¬Unshadowed names n) (op : Operator) (m : String) :
    shape? names (n ++ " " ++ op.text ++ " " ++ m) = none := by
  obtain ⟨k, cs, hk, hcs, hwhole⟩ := exists_nameAt? hn
  obtain ⟨c, ds, rfl⟩ := exists_cons_of_ne_nil (mt hwhole.1 hshadowed)
  -- The rest of the name is no first character of an identifier, since a name stands before it.
  have hc : Text.isIdentifierContinue c = true := by
    obtain ⟨d, more, hmore, -, hcontinue⟩ := exists_cons_of_isIdentifier (hnames n hn)
    obtain ⟨e, es, hes, -⟩ :=
      exists_cons_of_isIdentifier (hnames k (mem_of_find?_eq_some hk))
    rw [hcs, hes, cons_append, List.cons.injEq] at hmore
    exact hcontinue c (by simp [← hmore.2])
  have hatoms : atoms names (n ++ " " ++ op.text ++ " " ++ m) =
      .name k :: atomsFrom names 0 (c :: ds ++ ' ' :: (op.text.toList ++ ' ' :: m.toList)) := by
    rw [atoms, toList_between, (atomsFrom_listed hnames hk hcs).2]
  have hstart : (atoms names (n ++ " " ++ op.text ++ " " ++ m)).dropWhile Atom.isBlank =
      .name k :: atomsFrom names 0 (c :: ds ++ ' ' :: (op.text.toList ++ ' ' :: m.toList)) := by
    rw [hatoms, dropWhile_cons_of_neg (by simp [Atom.isBlank])]
  have hoperation := operation?_of_continue hc names
    (ds ++ ' ' :: (op.text.toList ++ ' ' :: m.toList))
  obtain ⟨x, more, rfl⟩ := exists_cons_of_ne_nil (ne_nil_of_mem hn)
  unfold shape?
  simp only [hstart, cons_append, hoperation]
  rfl

theorem shape?_of_unshadowed (hnames : ∀ x ∈ names, Text.isIdentifier x.toList = true)
    (hn : n ∈ names) (hm : m ∈ names) (hwhole : Unshadowed names n) (op : Operator) :
    shape? names (n ++ " " ++ op.text ++ " " ++ m) =
      some ⟨some n, op, atomsFrom names 0 m.toList⟩ := by
  have hopstart : ∀ c ∈ op.text.toList, Text.isIdentifierStart c = false := by
    cases op <;> simp [Operator.text] <;> decide
  have hblank (rest : List Char) :
      atomsFrom names 0 (' ' :: rest) = .char ' ' :: atomsFrom names 0 rest :=
    atomsFrom_append_of_plain hnames (forall_mem_singleton.2 (by decide)) rest
  have hatoms : atoms names (n ++ " " ++ op.text ++ " " ++ m) = .name n :: .char ' ' ::
      (op.text.toList.map Atom.char ++ .char ' ' :: atomsFrom names 0 m.toList) := by
    rw [atoms, toList_between, (atomsFrom_listed hnames ((nameAt?_eq_some_iff hn).2 hwhole)
      (append_nil _).symm).2, nil_append, hblank, atomsFrom_append_of_plain hnames hopstart, hblank]
  have hright : IsRight (atomsFrom names 0 m.toList) := by
    obtain ⟨k, cs, hk, hcs, -⟩ := exists_nameAt? hm
    refine ⟨⟨.name k, atomsFrom names 0 cs, (atomsFrom_listed hnames hk hcs).1, rfl⟩, ?_⟩
    exact newline_not_mem_atomsFrom hnames
      (not_mem_of_isIdentifier (hnames m hm) (by decide) (by decide))
  have hrest : (.char ' ' :: (op.text.toList.map Atom.char ++
      .char ' ' :: atomsFrom names 0 m.toList)).dropWhile Atom.isBlank =
      op.text.toList.map Atom.char ++ .char ' ' :: atomsFrom names 0 m.toList := by
    rw [dropWhile_cons_of_pos rfl]
    cases op <;> simp [Operator.text] <;> rfl
  have hstart : (atoms names (n ++ " " ++ op.text ++ " " ++ m)).dropWhile Atom.isBlank =
      .name n :: .char ' ' ::
        (op.text.toList.map Atom.char ++ .char ' ' :: atomsFrom names 0 m.toList) := by
    rw [hatoms, dropWhile_cons_of_neg (by simp [Atom.isBlank])]
  have hgap : ∀ c ∈ [' '], Text.isBlank c = true := forall_mem_singleton.2 rfl
  have hoperation := operation?_append op hgap hright
  exact shape?_of_name (ne_nil_of_mem hn) hstart (by rw [hrest]; exact hoperation)

theorem atomsFrom_eq_singleton_iff (hnames : ∀ x ∈ names, Text.isIdentifier x.toList = true)
    (hm : m ∈ names) : atomsFrom names 0 m.toList = [.name m] ↔ Unshadowed names m := by
  obtain ⟨k, cs, hk, hcs, hwhole⟩ := exists_nameAt? hm
  rw [(atomsFrom_listed hnames hk hcs).1, ← hwhole]
  cases cs with
  | nil =>
    obtain rfl : m = k := String.toList_inj.1 (hcs.trans (append_nil _))
    simp [atomsFrom_nil_of_isIdentifier hnames]
  | cons c cs =>
    obtain ⟨a, as, hatoms, -⟩ := exists_atomsFrom_cons names c cs
    simp [hatoms]

variable {σ : Type} {A : Algebra σ}

theorem expression_ne_var (s : Session σ) (text left : String) (op : Operator) (right : List Atom)
    (a : String) (o : Operator) (m : String) :
    (s.expression A text left op right).1 ≠ .ok ⟨a, o, .var m⟩ := by
  cases op <;> simp only [Session.expression, ne_eq, reduceCtorEq, not_false_eq_true]
  all_goals cases (s.linear A right).1 <;> simp [Except.map]

/-- An operator between two listed identifiers is read as such exactly if no name that is listed
before one of them is a start of it.  If this fails on the left, there is no assignment at all. -/
theorem read_names_iff (A : Algebra σ) (hnames : ∀ x ∈ names, Text.isIdentifier x.toList = true)
    (hn : n ∈ names) (hm : m ∈ names) (op : Operator) :
    (read A names (n ++ " " ++ op.text ++ " " ++ m) = .ok ⟨n, op, .var m⟩ ↔
        Unshadowed names n ∧ Unshadowed names m) ∧
      (¬Unshadowed names n → read A names (n ++ " " ++ op.text ++ " " ++ m) =
        .error (.wrongStructure (n ++ " " ++ op.text ++ " " ++ m))) := by
  have hsession : (Session.start A names).names = names := rfl
  have hshadowed (h : ¬Unshadowed names n) : read A names (n ++ " " ++ op.text ++ " " ++ m) =
      .error (.wrongStructure (n ++ " " ++ op.text ++ " " ++ m)) := by
    rw [read, Session.read, hsession, shape?_of_shadowed hnames hn h op m]
  refine ⟨?_, hshadowed⟩
  by_cases hwhole : Unshadowed names n
  · obtain ⟨k, cs, hk, hcs, -⟩ := exists_nameAt? hm
    have hright := (atomsFrom_listed hnames hk hcs).1
    have hnumeral : numeral? (atomsFrom names 0 m.toList) = none := by
      rw [hright]
      rfl
    rw [read, Session.read, hsession, shape?_of_unshadowed hnames hn hm hwhole op]
    simp only [hnumeral]
    rw [← atomsFrom_eq_singleton_iff hnames hm, hright]
    cases atomsFrom names 0 cs with
    | nil => simp [hwhole]
    | cons a as =>
      simp only [List.cons.injEq, reduceCtorEq, and_false, iff_false]
      exact expression_ne_var _ _ _ _ _ _ _ _
  · rw [hshadowed hwhole]
    simp [hwhole]

theorem read_names_longer_first :
    read (Static.algebra []) ["ab", "a"] ("ab" ++ " " ++ Operator.increase.text ++ " " ++ "a") =
      .ok ⟨"ab", .increase, .var "a"⟩ :=
  (read_names_iff _ (by decide +kernel) (by decide) (by decide) .increase).1.2
    ⟨by decide +kernel, by decide +kernel⟩

/-- A name that starts with one listed before it is not read, although both are listed. -/
theorem read_shadowed_name : read (Static.algebra []) ["a", "ab"] "ab = a" =
    .error (.wrongStructure "ab = a") := by
  decide +kernel

end DataDiagram.Assignment
