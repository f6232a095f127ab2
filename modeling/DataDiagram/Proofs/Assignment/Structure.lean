import DataDiagram.Assignment.Structure
import DataDiagram.Proofs.Assignment.Grammar
/-!
# The structure of linear assignment texts

Where names are identifiers and none is the start of another, a text has one reading as characters
and variables, and an assignment text falls into its variable, its operator and its right side.
-/

namespace DataDiagram.Assignment

open List

/-- What holds of the characters of a list is decided along the list, not along all characters. -/
instance (priority := 2000) decidableForallMem {p : Char → Prop} [DecidablePred p]
    (cs : List Char) :
    Decidable (∀ c ∈ cs, p c) := List.decidableBAll p cs

/-- The characters that end a literal and a variable. -/
def delimiters : List Char := [' ', '\t', '\x0c', '+', '-', '*', '(', ')']

variable {c : Char} {cs : List Char} {as : List Atom}

theorem mem_delimiters_of_isGap (hc : Source.isGap c = true) : c ∈ delimiters := by
  simp only [Source.isGap, Bool.or_eq_true, beq_iff_eq] at hc
  rcases hc with (rfl | rfl) | rfl <;> decide

theorem mark_mem_delimiters (m : Mark) : m.char ∈ delimiters := by
  cases m <;> decide

theorem isIdentifierContinue_of_mem_delimiters (hc : c ∈ delimiters) :
    Text.isIdentifierContinue c = false := by
  have hall : ∀ c ∈ delimiters, Text.isIdentifierContinue c = false := by decide
  exact hall c hc

theorem isIdentifierStart_of_mem_delimiters (hc : c ∈ delimiters) :
    Text.isIdentifierStart c = false := by
  have hall : ∀ c ∈ delimiters, Text.isIdentifierStart c = false := by decide
  exact hall c hc

/-- A text that starts with a delimiter, unless it is empty. -/
def Stops (cs : List Char) : Prop := ∀ c ∈ cs.head?, c ∈ delimiters

theorem Spaced.stops {spell : String → List Char} {ls : List Lexeme}
    (h : Spaced spell ls cs) (hls : ∀ l ∈ ls.head?, l.isWord = false) : Stops cs := by
  have hgap {gap rest : List Char} (hgap : ∀ c ∈ gap, Source.isGap c = true) (hrest : Stops rest) :
      Stops (gap ++ rest) := by
    cases gap with
    | nil => exact hrest
    | cons c gap =>
      intro d hd
      obtain rfl : c = d := by simpa using hd
      exact mem_delimiters_of_isGap (hgap c mem_cons_self)
  cases h with
  | nil h =>
    have hempty : Stops ([] : List Char) := by simp [Stops]
    simpa using hgap h hempty
  | @cons gap l ls cs h _ =>
    rw [append_assoc]
    refine hgap h ?_
    cases l with
    | mark m => simpa [Stops, Lexeme.chars] using mark_mem_delimiters m
    | literal _ | name _ => exact absurd (hls _ rfl) (by simp [Lexeme.isWord])

/-! ## Variables in a text -/

variable {x : String} {names : List String} {rest : List Char}

/-- An identifier has a first character, and the others may follow it. -/
theorem exists_cons_of_isIdentifier (hx : Text.isIdentifier x.toList = true) : ∃ c cs,
    x.toList = c :: cs ∧ Text.isIdentifierStart c = true ∧
      ∀ d ∈ cs, Text.isIdentifierContinue d = true := by
  cases hcs : x.toList with
  | nil => simp [hcs, Text.isIdentifier] at hx
  | cons c cs =>
    rw [hcs, Text.isIdentifier, Bool.and_eq_true, all_eq_true] at hx
    exact ⟨c, cs, rfl, hx⟩

theorem nameAt?_eq_none (hcs : ∀ x ∈ names, ¬ x.toList <+: cs) : nameAt? names cs = none := by
  rw [nameAt?, List.find?_eq_none]
  intro x hx
  rw [ isPrefixOf_iff_prefix]
  exact hcs x hx

theorem atomsFrom_of_nameAt?_eq_none (hfound : nameAt? names (c :: rest) = none) :
    atomsFrom names 0 (c :: rest) = .char c :: atomsFrom names 0 rest := by
  rw [atomsFrom, hfound]

theorem atomsFrom_char (hc : ∀ x ∈ names, ¬ x.toList <+: c :: rest) :
    atomsFrom names 0 (c :: rest) = .char c :: atomsFrom names 0 rest :=
  atomsFrom_of_nameAt?_eq_none (nameAt?_eq_none hc)

theorem atomsFrom_skip (names : List String) (cs rest : List Char) :
    atomsFrom names cs.length (cs ++ rest) = atomsFrom names 0 rest := by
  induction cs with
  | nil => rfl
  | cons c cs ih =>
    rw [length_cons, cons_append, atomsFrom]
    exact ih

theorem atomsFrom_of_nameAt?
    (hx : Text.isIdentifier x.toList = true) (hfound : nameAt? names (x.toList ++ rest) = some x) :
    atomsFrom names 0 (x.toList ++ rest) = .name x :: atomsFrom names 0 rest := by
  obtain ⟨c, cs, hcs, -⟩ := exists_cons_of_isIdentifier hx
  have hlength : x.length - 1 = cs.length := by
    rw [← String.length_toList, hcs]
    simp
  have hempty : x ≠ "" := by
    rintro rfl
    simp at hcs
  rw [hcs, cons_append] at hfound ⊢
  rw [atomsFrom, hfound]
  split
  · next heq => exact absurd (Option.some.inj heq) hempty
  · dsimp only
    rw [hlength, atomsFrom_skip]

/-- Characters that start no identifier stand for themselves. -/
theorem atomsFrom_append_of_plain (hnames : ∀ x ∈ names, Text.isIdentifier x.toList = true)
    (hcs : ∀ c ∈ cs, Text.isIdentifierStart c = false) (rest : List Char) :
    atomsFrom names 0 (cs ++ rest) = cs.map .char ++ atomsFrom names 0 rest := by
  induction cs with
  | nil => rfl
  | cons c cs ih =>
    rw [cons_append, atomsFrom_char, ih fun d hd => hcs d (mem_cons_of_mem c hd)]
    · rfl
    · intro x hx hfront
      obtain ⟨d, ds, hds, hstart, -⟩ := exists_cons_of_isIdentifier (hnames x hx)
      rw [hds, cons_prefix_cons] at hfront
      rw [hfront.1, hcs c mem_cons_self] at hstart
      exact Bool.false_ne_true hstart

theorem atomsFrom_nil_of_isIdentifier
    (hnames : ∀ x ∈ names, Text.isIdentifier x.toList = true) : atomsFrom names 0 [] = [] := by
  have hempty : names.contains "" = false := by
    rw [Bool.eq_false_iff, Ne, contains_iff_mem]
    intro hmem
    obtain ⟨c, cs, hcs, -⟩ := exists_cons_of_isIdentifier (hnames "" hmem)
    simp at hcs
  rw [atomsFrom, hempty]
  rfl

theorem exists_name_of_atomsFrom (hnames : ∀ x ∈ names, Text.isIdentifier x.toList = true)
    (hfound : nameAt? names cs = some x) :
    x ∈ names ∧ ∃ rest, cs = x.toList ++ rest ∧ rest.length < cs.length ∧
      atomsFrom names 0 cs = .name x :: atomsFrom names 0 rest := by
  have hx : x ∈ names := mem_of_find?_eq_some hfound
  have hfits := List.find?_some hfound
  obtain ⟨rest, rfl⟩ := isPrefixOf_iff_prefix.1 hfits
  obtain ⟨c, ds, hds, -⟩ := exists_cons_of_isIdentifier (hnames x hx)
  refine ⟨hx, rest, rfl, ?_, atomsFrom_of_nameAt? (hnames x hx) hfound⟩
  rw [length_append, hds, length_cons]
  omega

theorem flatMap_text_atomsFrom
    (hnames : ∀ x ∈ names, Text.isIdentifier x.toList = true) (cs : List Char) :
    (atomsFrom names 0 cs).flatMap (fun a => a.text.toList) = cs ∧
      ∀ x, Atom.name x ∈ atomsFrom names 0 cs → x ∈ names := by
  induction hn : cs.length using Nat.strong_induction_on generalizing cs with
  | _ n ih =>
    cases hfound : nameAt? names cs with
    | some x =>
      obtain ⟨hx, rest, hcs, hshorter, hatoms⟩ := exists_name_of_atomsFrom hnames hfound
      obtain ⟨htext, hmem⟩ := ih rest.length (hn ▸ hshorter) rest rfl
      rw [hatoms]
      refine ⟨?_, ?_⟩
      · rw [flatMap_cons, htext, Atom.text, hcs]
      · intro y hy
        rcases mem_cons.1 hy with hxy | hy
        · rwa [Atom.name.inj hxy]
        · exact hmem y hy
    | none =>
      cases cs with
      | nil => simp [atomsFrom_nil_of_isIdentifier hnames]
      | cons c rest =>
        obtain ⟨htext, hmem⟩ := ih rest.length (by rw [← hn]; simp) rest rfl
        rw [atomsFrom_of_nameAt?_eq_none hfound]
        refine ⟨?_, ?_⟩
        · rw [flatMap_cons, htext, Atom.text, String.toList_ofList]
          rfl
        · intro y hy
          rcases mem_cons.1 hy with hcy | hy
          · exact absurd hcy (by simp)
          · exact hmem y hy

theorem newline_not_mem_atomsFrom
    (hnames : ∀ x ∈ names, Text.isIdentifier x.toList = true) (hline : '\n' ∉ cs) :
    Atom.char '\n' ∉ atomsFrom names 0 cs := by
  intro hmem
  refine hline ?_
  rw [← (flatMap_text_atomsFrom hnames cs).1, mem_flatMap]
  exact ⟨_, hmem, by simp [Atom.text]⟩

/-- Names that can be told apart in any text: different identifiers, none the start of another. -/
structure Separable (names : List String) : Prop where
  nodup : names.Nodup
  isIdentifier : ∀ x ∈ names, Text.isIdentifier x.toList = true
  eq_of_isPrefix : ∀ x ∈ names, ∀ y ∈ names, x.toList <+: y.toList → x = y

namespace Separable

variable {names : List String}

theorem atomsFrom_nil (h : Separable names) : atomsFrom names 0 [] = [] :=
  atomsFrom_nil_of_isIdentifier h.isIdentifier

variable {x : String}

theorem nameAt?_name (h : Separable names) (hx : x ∈ names) (rest : List Char) :
    nameAt? names (x.toList ++ rest) = some x := by
  have hfront : x.toList <+: x.toList ++ rest := prefix_append _ _
  cases hfound : nameAt? names (x.toList ++ rest) with
  | none =>
    rw [nameAt?, List.find?_eq_none] at hfound
    exact absurd ( isPrefixOf_iff_prefix.2 hfront) (hfound x hx)
  | some y =>
    have hy : y ∈ names := mem_of_find?_eq_some hfound
    have hyprefix : y.toList <+: x.toList ++ rest := by
      have hfits := List.find?_some hfound
      exact isPrefixOf_iff_prefix.1 hfits
    -- Two starts of one text are comparable, and here that makes them the same name.
    rcases prefix_or_prefix_of_prefix hyprefix hfront with hyx | hxy
    · rw [h.eq_of_isPrefix y hy x hx hyx]
    · rw [h.eq_of_isPrefix x hx y hy hxy]

theorem atomsFrom_name (h : Separable names) (hx : x ∈ names) (rest : List Char) :
    atomsFrom names 0 (x.toList ++ rest) = .name x :: atomsFrom names 0 rest :=
  atomsFrom_of_nameAt? (h.isIdentifier x hx) (h.nameAt?_name hx rest)

variable {cs : List Char}

theorem atomsFrom_plain (h : Separable names)
    (hcs : ∀ c ∈ cs, Text.isIdentifierStart c = false) (rest : List Char) :
    atomsFrom names 0 (cs ++ rest) = cs.map .char ++ atomsFrom names 0 rest :=
  atomsFrom_append_of_plain h.isIdentifier hcs rest

/-- A text that no name is part of stands for itself up to a delimiter. -/
theorem atomsFrom_free (h : Separable names) {rest : List Char}
    (hfree : ∀ x ∈ names, ¬ x.toList <:+: cs) (hrest : Stops rest) :
    atomsFrom names 0 (cs ++ rest) = cs.map .char ++ atomsFrom names 0 rest := by
  induction cs with
  | nil => rfl
  | cons c cs ih =>
    rw [cons_append, atomsFrom_char, ih fun x hx hinner =>
      hfree x hx (hinner.trans (suffix_cons c cs).isInfix)]
    · rfl
    · intro x hx hfront
      rcases prefix_or_prefix_of_prefix hfront (prefix_append (c :: cs) rest) with
        hinside | ⟨more, hmore⟩
      · exact hfree x hx hinside.isInfix
      -- A name that goes on after the text would hold the delimiter.
      cases more with
      | nil => exact hfree x hx (by rw [← hmore, append_nil])
      | cons d more =>
        rw [← hmore, ← cons_append, prefix_append_right_inj] at hfront
        obtain ⟨tail, rfl⟩ := hfront
        obtain ⟨b, bs, hbs, -, hcontinue⟩ := exists_cons_of_isIdentifier (h.isIdentifier x hx)
        rw [← hmore, cons_append, List.cons.injEq] at hbs
        have hd : Text.isIdentifierContinue d = true := hcontinue d (by simp [← hbs.2])
        rw [isIdentifierContinue_of_mem_delimiters (hrest d rfl)] at hd
        exact Bool.false_ne_true hd

end Separable

/-! ## Blanks and operators -/

/-- The code points of blanks. -/
def blankCodes : List Nat :=
  [9, 10, 11, 12, 13, 28, 29, 30, 31, 32, 0x85, 0xa0, 0x1680, 0x2000, 0x2001, 0x2002, 0x2003,
   0x2004, 0x2005, 0x2006, 0x2007, 0x2008, 0x2009, 0x200a, 0x2028, 0x2029, 0x202f, 0x205f, 0x3000]

theorem toNat_mem_blankCodes (hc : Text.isBlank c = true) : c.toNat ∈ blankCodes := by
  unfold Text.isBlank at hc
  generalize hn : c.toNat = n at hc
  simp only [blankCodes, mem_cons, not_mem_nil, or_false]
  by_cases hascii : n < 128
  · simp only [hascii, if_true, Bool.or_eq_true, Bool.and_eq_true, decide_eq_true_eq] at hc
    omega
  · simp only [hascii, if_false, Text.CharTable.contains, hn, Text.blankTable,
      Text.CharTable.hasCode] at hc
    split_ifs at hc <;> simp only [decide_eq_true_eq] at hc <;> omega

theorem isIdentifierStart_of_isBlank (hc : Text.isBlank c = true) :
    Text.isIdentifierStart c = false := by
  have hall : ∀ n ∈ blankCodes, Text.isIdentifierStart (Char.ofNat n) = false := by decide +kernel
  rw [← Char.ofNat_toNat c]
  exact hall c.toNat (toNat_mem_blankCodes hc)

theorem dropWhile_isBlank_append (hcs : ∀ c ∈ cs, Text.isBlank c = true) (rest : List Atom) :
    (cs.map Atom.char ++ rest).dropWhile Atom.isBlank = rest.dropWhile Atom.isBlank := by
  refine dropWhile_append_of_pos fun a ha => ?_
  obtain ⟨c, hc, rfl⟩ := mem_map.1 ha
  exact hcs c hc

theorem afterChars_eq_some_iff {rest : List Atom} :
    afterChars cs as = some rest ↔ as = cs.map Atom.char ++ rest := by
  induction cs generalizing as with
  | nil => simp [afterChars]
  | cons c cs ih =>
    cases as with
    | nil => simp [afterChars]
    | cons a as =>
      cases a with
      | name x => simp [afterChars]
      | char d =>
        by_cases hcd : c = d
        · simp [afterChars, hcd, ih]
        · simp [afterChars, hcd, Ne.symm hcd]

namespace Atom

/-- No character is both a blank and part of a word. -/
theorem isBlank_of_isWord {a : Atom} (ha : a.isWord = true) : a.isBlank = false := by
  cases a with
  | name x => rfl
  | char c =>
    have hall : ∀ n ∈ blankCodes, Text.isWordChar (Char.ofNat n) = false := by decide +kernel
    refine Bool.eq_false_iff.2 fun hblank => ?_
    have hfalse := hall c.toNat (toNat_mem_blankCodes hblank)
    rw [Char.ofNat_toNat] at hfalse
    exact Bool.false_ne_true (hfalse.symm.trans ha)

/-- What an operator is made of. -/
def isSign (a : Atom) : Bool := !a.isBlank && !a.isWord

end Atom

/-- A right side: it starts with a word, and it is a single line. -/
structure IsRight (right : List Atom) : Prop where
  exists_cons : ∃ first rest, right = first :: rest ∧ first.isWord = true
  not_mem_newline : Atom.char '\n' ∉ right

/-- The end of the last line, if the text has one. -/
def ending (ended : Bool) : List Atom := if ended then [.char '\n'] else []

theorem exists_ending (as : List Atom) : ∃ ended, as = dropNewline as ++ ending ended := by
  unfold dropNewline
  split
  · next hlast => exact ⟨true, (dropLast_append_getLast? _ hlast).symm⟩
  · exact ⟨false, (append_nil as).symm⟩

theorem dropNewline_append (h : Atom.char '\n' ∉ as) (ended : Bool) :
    dropNewline (as ++ ending ended) = as := by
  cases ended with
  | true => simp [dropNewline, ending]
  | false =>
    rw [ending, if_neg Bool.false_ne_true, append_nil, dropNewline]
    split
    · next hlast => exact absurd (mem_of_getLast? hlast) h
    · rfl

theorem IsRight.dropWhile_isBlank {right : List Atom} (h : IsRight right) (rest : List Atom) :
    (right ++ rest).dropWhile Atom.isBlank = right ++ rest := by
  obtain ⟨first, more, rfl, hword⟩ := h.exists_cons
  exact dropWhile_cons_of_neg (by simp [Atom.isBlank_of_isWord hword])

theorem exists_blanks (as : List Atom) : ∃ gap : List Char, (∀ c ∈ gap, Text.isBlank c = true) ∧
    as = gap.map Atom.char ++ as.dropWhile Atom.isBlank := by
  induction as with
  | nil => exact ⟨[], by simp⟩
  | cons a as ih =>
    obtain ⟨gap, hgap, has⟩ := ih
    by_cases ha : a.isBlank = true
    · cases a with
      | name x => exact nomatch ha
      | char c =>
        refine ⟨c :: gap, forall_mem_cons.2 ⟨ha, hgap⟩, ?_⟩
        rw [dropWhile_cons_of_pos ha, map_cons, cons_append, ← has]
    · exact ⟨[], by simp, by simp [dropWhile_cons_of_neg ha]⟩

theorem rightSide?_eq_some_iff {op : Operator} {right : List Atom} :
    rightSide? op as = some right ↔ IsRight right ∧ ∃ (gap : List Char) (ended : Bool),
      (∀ c ∈ gap, Text.isBlank c = true) ∧
      as = op.text.toList.map Atom.char ++ (gap.map Atom.char ++ (right ++ ending ended)) := by
  rw [rightSide?, Option.bind_eq_bind, Option.bind_eq_some_iff]
  constructor
  · rintro ⟨rest, hrest, hright⟩
    obtain ⟨gap, hgap, hblanks⟩ := exists_blanks rest
    obtain ⟨ended, hended⟩ := exists_ending (rest.dropWhile Atom.isBlank)
    dsimp only at hright
    split at hright
    · next first more heq =>
      split at hright
      · next hok =>
        obtain rfl := Option.some.inj hright
        rw [Bool.and_eq_true, Bool.not_eq_true', ← Bool.not_eq_true, contains_iff_mem] at hok
        refine ⟨⟨⟨first, more, heq, hok.1⟩, hok.2⟩, gap, ended, hgap, ?_⟩
        rw [← hended, ← hblanks]
        exact afterChars_eq_some_iff.1 hrest
      · exact nomatch hright
    · exact nomatch hright
  · rintro ⟨hright, gap, ended, hgap, rfl⟩
    refine ⟨_, afterChars_eq_some_iff.2 rfl, ?_⟩
    dsimp only
    rw [dropWhile_isBlank_append hgap, hright.dropWhile_isBlank,
      dropNewline_append hright.not_mem_newline]
    obtain ⟨first, more, rfl, hword⟩ := hright.exists_cons
    have hline : (first :: more).contains (Atom.char '\n') = false := by
      simpa using hright.not_mem_newline
    simp only [hword, hline, Bool.not_false, Bool.and_self, if_true]
    rfl

/-- The operator is what comes before the first blank or word. -/
theorem takeWhile_isSign {op : Operator} {right : List Atom} (h : rightSide? op as = some right) :
    as.takeWhile Atom.isSign = op.text.toList.map Atom.char := by
  obtain ⟨hright, gap, ended, hgap, rfl⟩ := rightSide?_eq_some_iff.1 h
  have hop : ∀ a ∈ op.text.toList.map Atom.char, a.isSign = true := by
    cases op <;> simp [Operator.text] <;> decide
  have hrest : (gap.map Atom.char ++ (right ++ ending ended)).takeWhile Atom.isSign = [] := by
    cases gap with
    | nil =>
      obtain ⟨first, more, rfl, hword⟩ := hright.exists_cons
      exact takeWhile_cons_of_neg (by simp [Atom.isSign, hword])
    | cons c gap =>
      have hc : (Atom.char c).isBlank = true := hgap c mem_cons_self
      exact takeWhile_cons_of_neg (by simp [Atom.isSign, hc])
  rw [takeWhile_append_of_pos hop, hrest, append_nil]

theorem Operator.text_inj {o op : Operator} (h : o.text.toList = op.text.toList) : o = op := by
  revert h
  cases o <;> cases op <;> simp [Operator.text]

theorem operation?_eq_some_iff {op : Operator} {right : List Atom} :
    operation? as = some (op, right) ↔ rightSide? op as = some right := by
  have hsome {o : Operator} {r : List Atom} (h : operation? as = some (o, r)) :
      rightSide? o as = some r := by
    obtain ⟨o', -, ho⟩ := exists_of_findSome?_eq_some h
    obtain ⟨r', hr, heq⟩ := Option.map_eq_some_iff.1 ho
    cases heq
    exact hr
  refine ⟨hsome, fun h => ?_⟩
  have hall : op ∈ Operator.all := by cases op <;> decide
  obtain ⟨⟨o, r⟩, hfound⟩ : ∃ found, operation? as = some found := by
    rw [← Option.isSome_iff_exists, operation?, isSome_findSome?, any_eq_true]
    exact ⟨op, hall, by rw [h]; rfl⟩
  have hr := hsome hfound
  obtain rfl : o = op := Operator.text_inj <| map_injective_iff.2 (fun _ _ => Atom.char.inj) <|
    (takeWhile_isSign hr).symm.trans (takeWhile_isSign h)
  rw [hfound, ← Option.some.inj (hr.symm.trans h)]

theorem operation?_append (op : Operator) {gap : List Char}
    (hgap : ∀ c ∈ gap, Text.isBlank c = true) {right : List Atom} (hright : IsRight right) :
    operation? (op.text.toList.map Atom.char ++ (gap.map Atom.char ++ right)) = some (op, right) :=
  operation?_eq_some_iff.2 (rightSide?_eq_some_iff.2 ⟨hright, gap, false, hgap, by simp [ending]⟩)

theorem shape?_of_name {text n : String} {rest right : List Atom} {op : Operator}
    (hne : names ≠ []) (hstart : (atoms names text).dropWhile Atom.isBlank = .name n :: rest)
    (hop : operation? (rest.dropWhile Atom.isBlank) = some (op, right)) :
    shape? names text = some ⟨some n, op, right⟩ := by
  unfold shape?
  simp only [hstart]
  cases names with
  | nil => exact absurd rfl hne
  | cons m names =>
    rw [hop]
    rfl

/-- An assignment text is a variable, an operator and a right side, with any blanks around the first
two. -/
structure IsAssignment (names : List String) (left : String) (op : Operator)
    (right text : List Char) :
    Prop where
  mem_names : left ∈ names
  op_eq : op = .assign ∨ op = .increase
  exists_blanks :
    ∃ before between after, (∀ c ∈ before ++ between ++ after, Text.isBlank c = true) ∧
    text = before ++ left.toList ++ between ++ op.text.toList ++ after ++ right
  exists_word : ∃ c rest, right = c :: rest ∧ Text.isWordChar c = true

namespace Separable

variable {names : List String}

theorem isRight_atomsFrom (h : Separable names) {right : List Char}
    (hword : ∃ c rest, right = c :: rest ∧ Text.isWordChar c = true) (hline : '\n' ∉ right) :
    IsRight (atomsFrom names 0 right) := by
  obtain ⟨htext, -⟩ := flatMap_text_atomsFrom h.isIdentifier right
  obtain ⟨c, rest, rfl, hc⟩ := hword
  refine ⟨?_, ?_⟩
  · cases hatoms : atomsFrom names 0 (c :: rest) with
    | nil => simp [hatoms] at htext
    | cons first more =>
      refine ⟨first, more, rfl, ?_⟩
      cases first with
      | name x => rfl
      | char d =>
        obtain ⟨rfl, -⟩ : d = c ∧ _ := by
          simpa [hatoms, Atom.text] using htext
        exact hc
  · exact newline_not_mem_atomsFrom h.isIdentifier hline

theorem numeral?_atomsFrom (h : Separable names) {right : List Char}
    (hright : right.all Text.isNumeral = false) : numeral? (atomsFrom names 0 right) = none := by
  have hchars {as : List Atom} {cs : List Char} (has : chars? as = some cs) :
      as.flatMap (fun a => a.text.toList) = cs := by
    induction as generalizing cs with
    | nil => simpa [chars?] using has
    | cons a as ih =>
      cases a with
      | name x => simp [chars?] at has
      | char c =>
        rw [chars?, Option.map_eq_some_iff] at has
        obtain ⟨ds, hds, rfl⟩ := has
        rw [flatMap_cons, ih hds, Atom.text, String.toList_ofList]
        rfl
  cases hc : chars? (atomsFrom names 0 right) with
  | none => simp [numeral?, hc]
  | some cs =>
    obtain rfl : right = cs := by
      rw [← hchars hc, (flatMap_text_atomsFrom h.isIdentifier right).1]
    simp only [numeral?, hc, hright, Option.bind_eq_bind, Option.bind_some, Bool.and_false,
      Bool.false_eq_true, if_false]

theorem atomsFrom_ne_name (h : Separable names) {right : List Char}
    (hright : String.ofList right ∉ names) (x : String) : atomsFrom names 0 right ≠ [.name x] := by
  intro hatoms
  obtain ⟨htext, hmem⟩ := flatMap_text_atomsFrom h.isIdentifier right
  have hx : x ∈ names := hmem x (by simp [hatoms])
  obtain rfl : x.toList = right := by simpa [hatoms, Atom.text] using htext
  rw [String.ofList_toList] at hright
  exact hright hx

theorem shape?_eq (h : Separable names) {left : String} {op : Operator} {right : List Char}
    {text : String} (ht : IsAssignment names left op right text.toList) (hline : '\n' ∉ right) :
    shape? names text = some ⟨some left, op, atomsFrom names 0 right⟩ := by
  obtain ⟨before, between, after, hblank, htext⟩ := ht.exists_blanks
  have hbefore : ∀ c ∈ before, Text.isBlank c = true := fun c hc => hblank c (by simp [hc])
  have hbetween : ∀ c ∈ between, Text.isBlank c = true := fun c hc => hblank c (by simp [hc])
  have hafter : ∀ c ∈ after, Text.isBlank c = true := fun c hc => hblank c (by simp [hc])
  have hopchars : ∀ c ∈ op.text.toList, Text.isIdentifierStart c = false := by
    rcases ht.op_eq with hop | hop <;> rw [hop] <;> simp [Operator.text] <;> decide
  have hplain {cs : List Char} (hcs : ∀ c ∈ cs, Text.isBlank c = true) (rest : List Char) :=
    h.atomsFrom_plain (fun c hc => isIdentifierStart_of_isBlank (hcs c hc)) rest
  have hatoms : atoms names text = before.map Atom.char ++ (.name left :: (between.map Atom.char ++
      (op.text.toList.map Atom.char ++ (after.map Atom.char ++ atomsFrom names 0 right)))) := by
    simp only [atoms, htext, append_assoc]
    rw [hplain hbefore, h.atomsFrom_name ht.mem_names, hplain hbetween, h.atomsFrom_plain hopchars,
      hplain hafter]
  have hright := h.isRight_atomsFrom ht.exists_word hline
  have hrest : (between.map Atom.char ++ (op.text.toList.map Atom.char ++
      (after.map Atom.char ++ atomsFrom names 0 right))).dropWhile Atom.isBlank =
      op.text.toList.map Atom.char ++ (after.map Atom.char ++ atomsFrom names 0 right) := by
    rw [dropWhile_isBlank_append hbetween]
    rcases ht.op_eq with hop | hop <;> rw [hop] <;> simp [Operator.text] <;> rfl
  have hoperation := operation?_append op hafter hright
  have hstart : (atoms names text).dropWhile Atom.isBlank = .name left :: (between.map Atom.char ++
      (op.text.toList.map Atom.char ++ (after.map Atom.char ++ atomsFrom names 0 right))) := by
    rw [hatoms, dropWhile_isBlank_append hbefore, dropWhile_cons_of_neg (by simp [Atom.isBlank])]
  exact shape?_of_name (ne_nil_of_mem ht.mem_names) hstart
    (by rw [hrest, hoperation])

end Separable

end DataDiagram.Assignment
