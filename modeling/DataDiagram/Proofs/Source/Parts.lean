import DataDiagram.Proofs.Assignment.Tokens
/-!
# Tokens of a line

A line is made of parts that are cut apart by what follows them: words before what is no part of a
word, numbers before what ends a number, and symbols.  Its tokens are those of its parts.
-/

namespace DataDiagram.Source

open List

/-! ## Names -/

/-- A name that is no reserved word and has only characters of ASCII. -/
structure IsName (id : String) : Prop where
  identifier : Text.isIdentifier id.toList = true
  ascii : ∀ c ∈ id.toList, c.toNat < 128
  free : Keyword.ofString? id = none

instance IsName.instDecidable (id : String) : Decidable (IsName id) :=
  decidable_of_iff (Text.isIdentifier id.toList = true ∧ (∀ c ∈ id.toList, c.toNat < 128) ∧
      Keyword.ofString? id = none)
    ⟨fun h => ⟨h.1, h.2.1, h.2.2⟩, fun h => ⟨h.identifier, h.ascii, h.free⟩⟩

theorem IsName.exists_cons {id : String} (h : IsName id) : ∃ c cs, id.toList = c :: cs ∧
    c.isDigit = false ∧ isNameChar c = true ∧ ∀ d ∈ c :: cs, d.isAlphanum = true ∨ d = '_' := by
  obtain ⟨c, cs, hid, hstart, hmore⟩ := Assignment.exists_cons_of_isIdentifier h.identifier
  have hascii := h.ascii
  rw [hid, forall_mem_cons] at hascii
  rw [Text.isIdentifierStart, if_pos hascii.1, Bool.or_eq_true, beq_iff_eq] at hstart
  have hword : ∀ d ∈ cs, d.isAlphanum = true ∨ d = '_' := by
    intro d hd
    have hcontinue := hmore d hd
    rw [Text.isIdentifierContinue, if_pos (hascii.2 d hd), Bool.or_eq_true, beq_iff_eq] at hcontinue
    exact hcontinue
  have hc : c.isAlphanum = true ∨ c = '_' := hstart.imp_left fun h => by simp [Char.isAlphanum, h]
  refine ⟨c, cs, hid, ?_, Assignment.isNameChar_of_word hc, forall_mem_cons.2 ⟨hc, hword⟩⟩
  rcases hstart with h | rfl
  · change (decide (c.val ≥ 'A'.val ∧ c.val ≤ 'Z'.val) ||
      decide (c.val ≥ 'a'.val) && decide (c.val ≤ 'z'.val)) = true at h
    simp only [Char.isDigit, Bool.or_eq_true, Bool.and_eq_true, decide_eq_true_eq,
      Bool.and_eq_false_iff,
      decide_eq_false_iff_not, ge_iff_le, UInt32.le_iff_toNat_le] at h ⊢
    have h9 : '9'.val.toNat = 57 := rfl
    have hA : 'A'.val.toNat = 65 := rfl
    have ha : 'a'.val.toNat = 97 := rfl
    omega
  · rfl

/-! ## Parts -/

/-- A part of a line: a blank, or a token as it is written. -/
inductive Part
  | blank
  | token (text : String) (kind : TokenKind)

namespace Part

def text : Part → String
  | blank => " "
  | token text _ => text

def kind? : Part → Option TokenKind
  | blank => none
  | token _ kind => some kind

def chars (ps : List Part) : List Char := ps.flatMap fun p => p.text.toList

def kinds (ps : List Part) : List TokenKind := ps.filterMap kind?

@[simp]
theorem chars_append (ps qs : List Part) : chars (ps ++ qs) = chars ps ++ chars qs :=
  flatMap_append

@[simp]
theorem kinds_append (ps qs : List Part) : kinds (ps ++ qs) = kinds ps ++ kinds qs :=
  filterMap_append

@[simp]
theorem kinds_blank (ps : List Part) : kinds (blank :: ps) = kinds ps := rfl

@[simp]
theorem kinds_token (text : String) (kind : TokenKind) (ps : List Part) :
    kinds (token text kind :: ps) = kind :: kinds ps := rfl

/-- A character that parts are made of. -/
def isUsed (c : Char) : Bool := c.isAlphanum || "_ ()[],:.=+-*!<>".toList.contains c

/-- Whether a token ends where the character `next` follows. -/
structure Cut (next : Char) (text : String) (kind : TokenKind) : Prop where
  scanned : ∀ rest, (∀ c ∈ next :: rest, isQuote c = false) →
    scanToken (text.toList ++ next :: rest) = some (kind, next :: rest)
  used : ∀ c ∈ text.toList, isUsed c = true
  solid : ∃ c cs, text.toList = c :: cs ∧ c ≠ ' '

/-- Whether each part ends where the next one starts, and the last one where `next` follows. -/
def Fits (next : Char) : List Part → Prop
  | [] => True
  | blank :: ps => Fits next ps
  | token text kind :: ps => Cut ((chars ps).headD next) text kind ∧ Fits next ps

theorem headD_append (cs ds : List Char) (next : Char) :
    (cs ++ ds).headD next = cs.headD (ds.headD next) := by
  cases cs <;> rfl

variable {ps : List Part} {c : Char} {cs : List Char} {n : Nat} {next : Char} {rest : List Char}
  {kind : TokenKind}

theorem fits_append {qs : List Part} :
    Fits next (ps ++ qs) ↔ Fits ((chars qs).headD next) ps ∧ Fits next qs := by
  induction ps with
  | nil => exact (and_iff_right trivial).symm
  | cons p ps ih =>
    cases p with
    | blank => exact ih
    | token text kind =>
      rw [cons_append, Fits, Fits, chars_append, headD_append, ih, and_assoc]

theorem Fits.used (h : Fits next ps) : ∀ c ∈ chars ps, isUsed c = true := by
  induction ps with
  | nil => exact fun c hc => absurd hc not_mem_nil
  | cons p ps ih =>
    cases p with
    | blank => exact forall_mem_cons.2 ⟨by decide, ih h⟩
    | token text kind => exact forall_mem_append.2 ⟨h.1.used, ih h.2⟩

theorem ne_of_isUsed {d : Char} (hc : isUsed c = true) (hd : isUsed d = false) : c ≠ d := by
  rintro rfl
  rw [hc] at hd
  exact Bool.false_ne_true hd.symm

theorem isQuote_of_isUsed (hc : isUsed c = true) : isQuote c = false := by
  have hsingle : c ≠ '\'' := ne_of_isUsed hc (by decide)
  have hdouble : c ≠ '"' := ne_of_isUsed hc (by decide)
  simp [isQuote, hsingle, hdouble]

theorem isGap_of_isUsed (hc : isUsed c = true) (hblank : c ≠ ' ') : isGap c = false := by
  have htab : c ≠ '\t' := ne_of_isUsed hc (by decide)
  have hfeed : c ≠ '\x0c' := ne_of_isUsed hc (by decide)
  simp [isGap, hblank, htab, hfeed]

theorem not_mem_of_isUsed (hc : isUsed c = true) : c ∉ ['\n', '\\', '#'] := by
  intro hmem
  have hall : ∀ d ∈ ['\n', '\\', '#'], isUsed d = false := by decide
  exact ne_of_isUsed hc (hall c hmem) rfl

/-- The parts of a line are its tokens, if the brackets among them can be closed. -/
theorem Fits.scan_eq (h : Fits next ps) {s : LexState}
    (hrest : ∀ c ∈ next :: rest, isQuote c = false)
    (hs : s.rest.dropWhile isGap = (chars ps ++ next :: rest).dropWhile isGap)
    {brackets : List Symbol}
    (hbrackets : (kinds ps).foldlM bracketsAfter s.brackets = some brackets) (fuel : Nat) :
    ∃ ts s', ts.map Token.kind = kinds ps ∧
      scan (fuel + (kinds ps).length) false s = (scan fuel false s').map (ts ++ ·) ∧
      s'.rest.dropWhile isGap = (next :: rest).dropWhile isGap ∧ s'.brackets = brackets ∧
      s'.indents = s.indents := by
  induction ps generalizing s with
  | nil =>
    refine ⟨[], s, rfl, ?_, hs, Option.some.inj hbrackets, rfl⟩
    cases h : scan fuel false s <;> simp [kinds, h]
  | cons p ps ih =>
    cases p with
    | blank => exact ih h hs hbrackets
    | token text kind =>
      obtain ⟨c, cs, htext, hblank⟩ := h.1.solid
      have hc : isUsed c = true := h.1.used c (by simp [htext])
      obtain ⟨d, more, hmore⟩ : ∃ d more, chars ps ++ next :: rest = d :: more ∧
          d = (chars ps).headD next := by
        cases hps : chars ps with
        | nil => exact ⟨next, rest, rfl, rfl⟩
        | cons d ds => exact ⟨d, _, rfl, rfl⟩
      have hquote : ∀ c ∈ d :: more, isQuote c = false := by
        rw [← hmore.1]
        exact List.forall_mem_append.2 ⟨fun c hc => isQuote_of_isUsed (h.2.used c hc), hrest⟩
      have htoken : scanToken (c :: (cs ++ d :: more)) = some (kind, d :: more) := by
        have hscan := h.1.scanned
        rw [← hmore.2, htext] at hscan
        exact hscan more hquote
      have hdrop : s.rest.dropWhile isGap = c :: (cs ++ d :: more) := by
        have hchars : chars (token text kind :: ps) ++ next :: rest = c :: (cs ++ d :: more) := by
          rw [← hmore.1]
          simp [chars, Part.text, htext]
        rw [hs, hchars, List.dropWhile_cons_of_neg (by simp [isGap_of_isUsed hc hblank])]
      rw [kinds_token, List.foldlM_cons, Option.bind_eq_bind, Option.bind_eq_some_iff] at hbrackets
      obtain ⟨b, hb, hbrackets⟩ := hbrackets
      have hstep (n : Nat) :=
        @Assignment.scan_token n _ _ _ _ _ _ hdrop (not_mem_of_isUsed hc) htoken hb
      obtain ⟨ts, s', hts, hscan, hrest', hrest''⟩ :=
        ih h.2
          (s := { (s.advance (c :: (cs ++ d :: more))).advance (d :: more) with brackets := b })
          (congrArg (List.dropWhile isGap) hmore.1.symm) hbrackets
      refine ⟨⟨kind, (s.advance (c :: (cs ++ d :: more))).position⟩ :: ts, s',
        congrArg (kind :: ·) hts, ?_, hrest', hrest''⟩
      rw [kinds_token, List.length_cons, ← Nat.add_assoc, hstep, hscan, Option.map_map]
      rfl

/-! ## The end of a line -/

theorem length_kinds_le (h : Fits next ps) : (kinds ps).length ≤ (chars ps).length := by
  induction ps with
  | nil => exact Nat.le_refl 0
  | cons p ps ih =>
    cases p with
    | blank => exact Nat.le_trans (ih h) (Nat.le_add_right _ 1)
    | token text kind =>
      obtain ⟨c, cs, htext, -⟩ := h.1.solid
      have hle := ih h.2
      have hlength : (chars (.token text kind :: ps)).length =
          cs.length + 1 + (chars ps).length := by
        simp [chars, Part.text, htext]
        omega
      rw [kinds_token, List.length_cons, hlength]
      omega

theorem Fits.tokens_eq {text : String} (h : Fits '\n' (token text kind :: ps))
    (hclosed : (kinds (token text kind :: ps)).foldlM bracketsAfter [] = some []) :
    ∃ ts, tokens (chars (token text kind :: ps)) = some ts ∧
      ts.map Token.kind = kinds (token text kind :: ps) ++ [.newline] := by
  obtain ⟨c, cs, htext, hblank⟩ := h.1.solid
  have hused := h.used
  have hlength := length_kinds_le h
  have hchars : chars (token text kind :: ps) = c :: (cs ++ chars ps) := by
    simp [chars, Part.text, htext]
  have hc : isUsed c = true := hused c (by simp [hchars])
  generalize token text kind :: ps = qs at h hclosed hused hlength hchars ⊢
  have hlines : ∀ c ∈ chars qs, c ≠ '\r' ∧ c ≠ '\n' := fun c hc =>
    ⟨ne_of_isUsed (hused c hc) (by decide), ne_of_isUsed (hused c hc) (by decide)⟩
  obtain ⟨fuel, hfuel⟩ :
      ∃ fuel, 2 * (chars qs ++ ['\n']).length + 2 = fuel + 2 + (kinds qs).length + 1 :=
    ⟨2 * (chars qs).length + 1 - (kinds qs).length, by simp; omega⟩
  have hrest :
      (LexState.start (chars qs ++ ['\n']) ⟨1, 0⟩).rest = c :: (cs ++ chars ps ++ ['\n']) := by
    rw [LexState.start, hchars, List.cons_append]
  obtain ⟨ts, s', hts, hscan, hrest', hbrackets, hindents⟩ := h.scan_eq
    (s := (LexState.start (chars qs ++ ['\n']) ⟨1, 0⟩).advance (c :: (cs ++ chars ps ++ ['\n'])))
    (List.forall_mem_singleton.2 rfl) (by rw [hchars]; rfl) hclosed (fuel + 2)
  have hend := @Assignment.scan_newline fuel s' hrest' hbrackets hindents
  refine ⟨ts ++ [⟨.newline, (s'.advance ['\n']).position⟩], ?_, by rw [List.map_append, hts]; rfl⟩
  rw [tokens, tokensFrom, Assignment.normalLines_eq hlines, hfuel,
    Assignment.scan_fresh hrest (not_mem_of_isUsed hc) (isGap_of_isUsed hc hblank) rfl rfl, hscan,
    hend]
  rfl

/-! ## Cuts -/

theorem scanToken_eq (hused : ∀ d ∈ c :: cs, isUsed d = true)
    (hrest : ∀ d ∈ next :: rest, isQuote d = false) (hpoint : c ≠ '.') :
    scanToken (c :: (cs ++ next :: rest)) =
      if c.isDigit = true then (scanNumber (c :: (cs ++ next :: rest))).map fun p =>
      (.number p.1, p.2)
      else if isNameChar c = true then
        (wordToken ((c :: (cs ++ next :: rest)).takeWhile isNameChar)).map
          fun kind => (kind, (c :: (cs ++ next :: rest)).dropWhile isNameChar)
      else (Symbol.split? (c :: (cs ++ next :: rest))).map fun p => (.symbol p.1, p.2) := by
  refine Assignment.scanToken_cons (Assignment.stringMode?_eq_none ?_) hpoint
  rw [← List.cons_append]
  exact List.forall_mem_append.2 ⟨fun d hd => isQuote_of_isUsed (hused d hd), hrest⟩

theorem cut_word {text : String}
    (htext : text.toList = c :: cs) (hkind : wordToken text.toList = some kind)
    (hchars : ∀ d ∈ text.toList, d.isAlphanum = true ∨ d = '_') (hdigit : c.isDigit = false)
    (hnext : isNameChar next = false) : Cut next text kind := by
  have hname : ∀ d ∈ text.toList, isNameChar d = true := fun d hd =>
    Assignment.isNameChar_of_word (hchars d hd)
  have hused : ∀ d ∈ text.toList, isUsed d = true := by
    intro d hd
    rcases hchars d hd with h | rfl
    · simp [isUsed, h]
    · rfl
  have hc (d : Char) (hd : isNameChar d = false) : c ≠ d := by
    rintro rfl
    rw [hname c (by simp [htext])] at hd
    exact Bool.false_ne_true hd.symm
  refine ⟨fun rest hrest => ?_, hused, c, cs, htext, hc ' ' (by decide)⟩
  have htake : (text.toList ++ next :: rest).takeWhile isNameChar = text.toList ∧
      (text.toList ++ next :: rest).dropWhile isNameChar = next :: rest := by
    rw [List.takeWhile_append_of_pos hname, List.dropWhile_append_of_pos hname,
      List.takeWhile_cons_of_neg (by simp [hnext]), List.dropWhile_cons_of_neg (by simp [hnext]),
      List.append_nil]
    exact ⟨rfl, rfl⟩
  rw [htext] at hused htake hkind hname ⊢
  rw [List.cons_append] at htake ⊢
  rw [scanToken_eq hused hrest (hc '.' (by decide)), hdigit, hname c (by simp), htake.1, htake.2,
    hkind]
  rfl

theorem cut_name {id : String} (h : IsName id) (hnext : isNameChar next = false) :
    Cut next id (.name id) := by
  obtain ⟨c, cs, hid, hdigit, -, hchars⟩ := h.exists_cons
  have hascii : id.toList.all (·.toNat < 128) = true := by
    rw [List.all_eq_true]
    exact fun d hd => decide_eq_true (h.ascii d hd)
  have hkind : wordToken id.toList = some (.name id) := by
    rw [wordToken, String.ofList_toList, h.free]
    simp only [hascii, Bool.true_or, if_true, Text.normalForm, String.ofList_toList]
  exact cut_word hid hkind (hid ▸ hchars) hdigit hnext

theorem toDigits_of_head (h : (Nat.toDigits 10 n).head? = some '0') :
    Nat.toDigits 10 n = ['0'] := by
  induction n using Nat.strongRecOn with
  | ind n ih =>
    rw [Nat.toDigits_eq_if (by decide)] at h ⊢
    by_cases hn : n < 10
    · rw [if_pos hn] at h ⊢
      rw [List.head?_cons, Option.some.injEq] at h
      rw [h]
    · rw [if_neg hn, List.head?_append_of_ne_nil _ Nat.toDigits_ne_nil] at h
      have hzero := ih (n / 10) (by omega) h
      have hvalue := congrArg (Nat.ofDigitChars 10 · 0) hzero
      rw [Nat.ofDigitChars_ten_toDigits] at hvalue
      have hten : Nat.ofDigitChars 10 ['0'] 0 = 0 := rfl
      omega

theorem length_toDigits_le {k : Nat} (hk : 0 < k) (hn : n < Nat.pow 10 k) :
    (Nat.toDigits 10 n).length ≤ k :=
  (Nat.length_toDigits_le_iff (by decide) hk).2 hn

theorem isLiteral_toString (hn : n < Nat.pow 10 Datum.maxDigits) :
    Assignment.IsLiteral (toString n).toList n := by
  have hdigit : ∀ c ∈ Nat.toDigits 10 n, c.isDigit = true := fun _ hc =>
    Nat.isDigit_of_mem_toDigits (by decide) (by decide) hc
  have hdigits {cs : List Char} (hcs : ∀ c ∈ cs, c.isDigit = true) (hne : cs ≠ []) :
      Assignment.Digits cs cs := by
    induction cs with
    | nil => exact absurd rfl hne
    | cons c cs ih =>
      rw [List.forall_mem_cons] at hcs
      cases cs with
      | nil => exact .last hcs.1
      | cons d cs => exact .next hcs.1 (ih hcs.2 (List.cons_ne_nil _ _))
  rw [Nat.toString_eq_ofList_toDigits, String.toList_ofList]
  refine ⟨_, hdigits hdigit Nat.toDigits_ne_nil, fun hhead => ?_, ?_,
    Nat.ofDigitChars_ten_toDigits.symm⟩
  · rw [toDigits_of_head hhead]
    decide
  · exact length_toDigits_le (by decide) hn

theorem cut_number (hn : n < Nat.pow 10 Datum.maxDigits)
    (hnext : next ∈ Assignment.terminators) : Cut next (toString n) (.number (.int n)) := by
  have hliteral := isLiteral_toString hn
  obtain ⟨ds, hds, -⟩ := id hliteral
  have hdigit : ∀ c ∈ (toString n).toList, c.isAlphanum = true ∨ c = '_' := hds.isWord
  have hused : ∀ c ∈ (toString n).toList, isUsed c = true := by
    intro c hc
    rcases hdigit c hc with h | rfl
    · simp [isUsed, h]
    · rfl
  obtain ⟨c, cs, _, hcs, -, hc⟩ := hds.exists_cons
  have hne (d : Char) (hd : d.isDigit = false) : c ≠ d := by
    rintro rfl
    rw [hc] at hd
    exact Bool.false_ne_true hd.symm
  refine ⟨fun rest hrest => ?_, hused, c, cs, hcs, hne ' ' (by decide)⟩
  have hends : Assignment.Ends (next :: rest) := by simpa [Assignment.Ends] using hnext
  have hnumber := hliteral.scanNumber_eq hends
  rw [hcs] at hused hnumber ⊢
  rw [List.cons_append] at hnumber ⊢
  rw [scanToken_eq hused hrest (hne '.' (by decide)), if_pos hc, hnumber]
  rfl

theorem cut_symbol {text : String} {s : Symbol}
    (htext : text.toList = c :: cs) (hused : ∀ d ∈ c :: cs, isUsed d = true)
    (hname : isNameChar c = false) (hc : c ∉ ['.', ' '])
    (hsplit : ∀ rest, Symbol.split? (c :: (cs ++ next :: rest)) = some (s, next :: rest)) :
    Cut next text (.symbol s) := by
  have hdigit : c.isDigit = false := by
    rw [isNameChar, Bool.or_eq_false_iff, Bool.or_eq_false_iff, Char.isAlphanum,
      Bool.or_eq_false_iff] at hname
    exact hname.1.1.2
  simp only [List.mem_cons, List.not_mem_nil, or_false, not_or] at hc
  refine ⟨fun rest hrest => ?_, htext ▸ hused, c, cs, htext, hc.2⟩
  rw [htext, List.cons_append, scanToken_eq hused hrest hc.1, hdigit, hname, hsplit rest]
  rfl

theorem cut_dot (hnext : isNameChar next = true) (hdigit : next.isDigit = false) :
    Cut next "." (.symbol .dot) := by
  refine ⟨fun rest hrest => ?_, by decide, '.', [], rfl, by decide⟩
  have hpoint : next ≠ '.' := by
    rintro rfl
    exact absurd hnext (by decide)
  have hmode : stringMode? ('.' :: next :: rest) = none :=
    Assignment.stringMode?_eq_none (forall_mem_cons.2 ⟨rfl, hrest⟩)
  have hsplit : Symbol.split? ('.' :: next :: rest) = some (.dot, next :: rest) := by
    rw [Symbol.split?]
    rintro r ⟨⟩
    exact hpoint rfl
  show scanToken ('.' :: next :: rest) = some (.symbol .dot, next :: rest)
  unfold scanToken
  rw [hmode]
  simp only [hdigit, Bool.false_eq_true, if_false, hsplit]
  rfl

end Part

end DataDiagram.Source
