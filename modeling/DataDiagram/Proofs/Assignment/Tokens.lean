import DataDiagram.Proofs.Assignment.Structure
/-!
# Tokens of literals, words and lines

A literal is a token up to what ends it, and so is a word.  The tokens of a line are found one after
the other, and the end of the line comes last.
-/

namespace DataDiagram.Assignment

open List

open Source (TokenKind LexState)

/-- The characters that end a literal and a variable in a source text. -/
def terminators : List Char := ['\n', '[', ']', ',', ':'] ++ delimiters

/-- A text that starts with what ends a literal, unless it is empty. -/
def Ends (cs : List Char) : Prop := ∀ c ∈ cs.head?, c ∈ terminators

variable {cs ds rest text : List Char} {d c : Char} {n fuel : Nat} {s : LexState}

/-! ## Literals -/

theorem Digits.exists_cons (h : Digits cs ds) :
    ∃ d cs' ds', cs = d :: cs' ∧ ds = d :: ds' ∧ d.isDigit = true := by
  cases h with
  | last hd | next hd _ | lowLine hd _ => exact ⟨_, _, _, rfl, rfl, hd⟩

theorem ne_lowLine_of_isDigit (hd : d.isDigit = true) : d ≠ '_' := by
  rintro rfl
  exact absurd hd (by decide)

theorem Digits.isDigit (h : Digits cs ds) : ∀ d ∈ ds, d.isDigit = true := by
  induction h with
  | last hd => exact forall_mem_singleton.2 hd
  | next hd _ ih | lowLine hd _ ih => exact forall_mem_cons.2 ⟨hd, ih⟩

theorem Digits.eq_of_head_tail (h : Digits cs ds)
    (hc : c ∈ cs.tail.head?) : c = '_' ∨ c ∈ ds := by
  cases h with
  | last _ => simp at hc
  | next _ h =>
    obtain ⟨e, cs', ds', rfl, rfl, -⟩ := h.exists_cons
    exact .inr (by simp_all)
  | lowLine _ _ => exact .inl (by simpa using hc.symm)

theorem hexValue?_of_isDigit (hd : d.isDigit = true) :
    Source.hexValue? d = some (d.toNat - '0'.toNat) := by
  have hbounds : '0' ≤ d ∧ d ≤ '9' := by
    simpa [Char.isDigit, Char.le_def] using hd
  simp [Source.hexValue?, hbounds.1, hbounds.2]

theorem isDigitOf_of_isDigit (hd : d.isDigit = true) : Source.isDigitOf 10 d = true := by
  rw [Source.isDigitOf, hexValue?_of_isDigit hd]
  simp only [Char.isDigit, Bool.and_eq_true, decide_eq_true_eq, UInt32.le_iff_toNat_le, ge_iff_le]
    at hd
  have hnat : d.toNat = d.val.toNat := rfl
  have h0 : '0'.toNat = 48 := rfl
  have h9 : '9'.val.toNat = 57 := rfl
  exact decide_eq_true (by omega)

theorem digitRun_cons {base : Nat} (hlow : c ≠ '_') (rest : List Char) :
    Source.digitRun base (c :: rest) =
      if Source.isDigitOf base c = true then
        (Source.digitRun base rest).map fun p => (c :: p.1, p.2)
      else some ([], c :: rest) := by
  rw [Source.digitRun]
  · simp only [beq_iff_eq, hlow, if_false]
    cases Source.digitRun base rest <;> rfl
  · intro d more h
    exact absurd h hlow

theorem digitRun_end (hrest : Ends rest) : Source.digitRun 10 rest = some ([], rest) := by
  cases rest with
  | nil => rfl
  | cons c rest =>
    have hall : ∀ c ∈ terminators, c ≠ '_' ∧ Source.isDigitOf 10 c = false := by decide
    obtain ⟨hlow, hdigit⟩ := hall c (hrest c rfl)
    rw [digitRun_cons hlow, hdigit]
    rfl

theorem Digits.digitRun_eq (h : Digits cs ds)
    (hrest : Ends rest) : Source.digitRun 10 (cs ++ rest) = some (ds, rest) := by
  induction h with
  | last hd =>
    rw [singleton_append, digitRun_cons (ne_lowLine_of_isDigit hd), isDigitOf_of_isDigit hd,
      if_pos rfl, digitRun_end hrest]
    rfl
  | next hd _ ih =>
    rw [cons_append, digitRun_cons (ne_lowLine_of_isDigit hd), isDigitOf_of_isDigit hd,
      if_pos rfl, ih]
    rfl
  | lowLine hd h ih =>
    obtain ⟨e, cs', ds', rfl, rfl, he⟩ := h.exists_cons
    rw [cons_append, digitRun_cons (ne_lowLine_of_isDigit hd), isDigitOf_of_isDigit hd,
      if_pos rfl, cons_append, cons_append, Source.digitRun, isDigitOf_of_isDigit he,
      if_pos rfl, ← cons_append, ih]
    rfl

theorem digitsValue_eq (hds : ∀ d ∈ ds, d.isDigit = true) :
    Source.digitsValue 10 ds = Nat.ofDigitChars 10 ds 0 := by
  rw [Source.digitsValue, Nat.ofDigitChars_eq_foldl]
  refine foldl_ext _ _ _ fun n d hd => ?_
  rw [hexValue?_of_isDigit (hds d hd), Option.getD_some, Nat.mul_comm]

theorem exponentPart_end (hrest : Ends rest) : Source.exponentPart rest = some (none, rest) := by
  cases rest with
  | nil => rfl
  | cons c rest =>
    have hall : ∀ c ∈ terminators, (c == 'e' || c == 'E') = false := by decide
    simp only [Source.exponentPart, hall c (hrest c rfl), Bool.false_eq_true, if_false]

theorem endsNumber_end (hrest : Ends rest) : Source.endsNumber rest = true := by
  cases rest with
  | nil => rfl
  | cons c rest =>
    have hall :
        ∀ c ∈ terminators, Source.isNameChar c = false ∧ c ∉ ['a', 'e', 'f', 'i', 'o', 'n'] := by
      decide
    obtain ⟨hname, hletter⟩ := hall c (hrest c rfl)
    simp only [mem_cons, not_mem_nil, or_false, not_or] at hletter
    simp [Source.endsNumber, hname, hletter]

theorem Ends.head_ne (hrest : Ends rest) (hc : c ∉ terminators)
    (more : List Char) : rest ≠ c :: more := by
  rintro rfl
  exact hc (hrest c rfl)

theorem decimalNumber_end (hds : ∀ d ∈ ds, d.isDigit = true)
    (hzero : ds.head? = some '0' → ∀ d ∈ ds, d = '0') (hlength : ds.length ≤ Datum.maxDigits)
    (hrest : Ends rest) : Source.decimalNumber ds false [] rest =
      some (.int (Nat.ofDigitChars 10 ds 0), rest) := by
  have hzeros : (ds.head? == some '0' && ds.any (· != '0')) = false := by
    rw [Bool.and_eq_false_iff]
    by_cases hhead : ds.head? = some '0'
    · exact .inr (by simpa using hzero hhead)
    · exact .inl (by simpa using hhead)
  rw [Source.decimalNumber, exponentPart_end hrest, ← digitsValue_eq hds]
  simp only [Option.bind_eq_bind, Option.bind_some]
  split
  · exact absurd rfl (hrest.head_ne (by decide) _)
  · exact absurd rfl (hrest.head_ne (by decide) _)
  · simp [endsNumber_end hrest, hzeros, hlength]

/-- What may come second in a literal and what follows it. -/
theorem Digits.second (h : Digits cs ds) (hrest : Ends rest) {b : Char}
    {more : List Char} (hcs : cs ++ rest = d :: b :: more) :
    b.isDigit = true ∨ b ∈ '_' :: terminators := by
  obtain ⟨d', cs', ds', hcons, -, -⟩ := h.exists_cons
  rw [hcons, cons_append, List.cons.injEq] at hcs
  cases cs' with
  | nil =>
    rw [nil_append] at hcs
    exact .inr (mem_cons_of_mem _ (hrest b (by simp [hcs.2])))
  | cons c cs' =>
    obtain ⟨rfl, -⟩ := List.cons.inj hcs.2
    rcases h.eq_of_head_tail (c := c) (by simp [hcons]) with rfl | hc
    · exact .inr (by simp)
    · exact .inl (h.isDigit c hc)

/-- A run of digits is scanned as a whole number, or not at all. -/
theorem Digits.scanNumber_eq (h : Digits cs ds) (hrest : Ends rest) :
    Source.scanNumber (cs ++ rest) = Source.decimalNumber ds false [] rest := by
  have hletter {d b : Char} {more : List Char} (hcs : cs ++ rest = d :: b :: more)
      (hb : b ∈ ['x', 'X', 'o', 'O', 'b', 'B']) : False := by
    have hall : ∀ b ∈ ['x', 'X', 'o', 'O', 'b', 'B'],
        ¬ (b.isDigit = true ∨ b ∈ '_' :: terminators) := by decide
    exact hall b hb (h.second hrest hcs)
  unfold Source.scanNumber
  split
  · next hcs => exact (hletter hcs (by decide)).elim
  · next hcs => exact (hletter hcs (by decide)).elim
  · next hcs => exact (hletter hcs (by decide)).elim
  · next hcs => exact (hletter hcs (by decide)).elim
  · next hcs => exact (hletter hcs (by decide)).elim
  · next hcs => exact (hletter hcs (by decide)).elim
  · next hcs =>
      obtain ⟨d, cs', ds', rfl, -, hd⟩ := h.exists_cons
      obtain ⟨rfl, -⟩ := List.cons.inj hcs
      exact absurd hd (by decide)
  · rw [h.digitRun_eq hrest]
    simp only [Option.bind_eq_bind, Option.bind_some]
    split
    · exact absurd rfl (hrest.head_ne (by decide) _)
    · exact absurd rfl (hrest.head_ne (by decide) _)
    · rfl

theorem IsLiteral.scanNumber_eq (h : IsLiteral cs n)
    (hrest : Ends rest) : Source.scanNumber (cs ++ rest) = some (.int n, rest) := by
  obtain ⟨ds, hds, hzero, hlength, rfl⟩ := h
  rw [hds.scanNumber_eq hrest]
  exact decimalNumber_end hds.isDigit hzero hlength hrest

/-! ## Words -/

theorem isNameChar_of_word (hc : c.isAlphanum = true ∨ c = '_') : Source.isNameChar c = true := by
  rcases hc with hc | rfl
  · simp [Source.isNameChar, hc]
  · rfl

theorem stringMode?_eq_none (hcs : ∀ c ∈ cs, Source.isQuote c = false) :
    Source.stringMode? cs = none := by
  match cs with
  | [] => rfl
  | [a] => simp [Source.stringMode?, hcs]
  | [a, b] => simp [Source.stringMode?, hcs]
  | a :: b :: c :: rest => simp [Source.stringMode?, hcs]

theorem scanToken_cons (hmode : Source.stringMode? (c :: cs) = none)
    (hc : c ≠ '.') : Source.scanToken (c :: cs) =
      if c.isDigit = true then (Source.scanNumber (c :: cs)).map fun p => (.number p.1, p.2)
      else if Source.isNameChar c = true then
        (Source.wordToken ((c :: cs).takeWhile Source.isNameChar)).map
          fun kind => (kind, (c :: cs).dropWhile Source.isNameChar)
      else (Source.Symbol.split? (c :: cs)).map fun p => (.symbol p.1, p.2) := by
  unfold Source.scanToken
  rw [hmode]
  dsimp only
  split
  · next heq => exact absurd (List.cons.inj heq).1 hc
  · next heq =>
      obtain ⟨rfl, -⟩ := List.cons.inj heq
      simp only [Option.map_eq_bind]
      rfl
  · next heq => exact absurd heq (cons_ne_nil c cs)

/-! ## Lines -/

theorem scan_solid (hdrop : s.rest.dropWhile Source.isGap = c :: cs) (hc : c ∉ ['\n', '\\', '#']) :
    Source.scan (fuel + 1) false s =
      (Source.scanToken (c :: cs)).bind fun t =>
      (Source.bracketsAfter s.brackets t.1).bind fun brackets =>
        (Source.scan fuel false { (s.advance (c :: cs)).advance t.2 with brackets }).map
          (⟨t.1, (s.advance (c :: cs)).position⟩ :: ·) := by
  have hrest : (s.advance (c :: cs)).rest = c :: cs := rfl
  simp only [mem_cons, not_mem_nil, or_false, not_or] at hc
  rw [Source.scan, hdrop, hrest]
  split
  · next heq => exact absurd heq (cons_ne_nil c cs)
  · next heq => exact absurd (List.cons.inj heq).1 hc.1
  · next heq => exact absurd (List.cons.inj heq).1 hc.2.1
  · next heq => exact absurd (List.cons.inj heq).1 hc.2.2
  · simp only [Option.bind_eq_bind, Option.map_eq_bind]
    rfl

theorem scan_token {fuel : Nat} {s : LexState} {c : Char} {cs rest : List Char} {kind : TokenKind}
    {brackets : List Source.Symbol} (hdrop : s.rest.dropWhile Source.isGap = c :: cs)
    (hc : c ∉ ['\n', '\\', '#']) (htoken : Source.scanToken (c :: cs) = some (kind, rest))
    (hbrackets : Source.bracketsAfter s.brackets kind = some brackets) :
    Source.scan (fuel + 1) false s =
      (Source.scan fuel false { (s.advance (c :: cs)).advance rest with brackets }).map
        (⟨kind, (s.advance (c :: cs)).position⟩ :: ·) := by
  rw [scan_solid hdrop hc, htoken, Option.bind_some, hbrackets, Option.bind_some]

theorem scan_newline {fuel : Nat} {s : LexState} (hdrop : s.rest.dropWhile Source.isGap = ['\n'])
    (hbrackets : s.brackets = []) (hindents : s.indents = []) :
    Source.scan (fuel + 2) false s = some [⟨.newline, (s.advance ['\n']).position⟩] := by
  have hrest : (s.advance ['\n']).rest = ['\n'] := rfl
  rw [Source.scan, hdrop, hrest]
  simp [Source.scan, Source.indentation, LexState.advance, hbrackets, hindents]

theorem normalLines_eq (htext : ∀ c ∈ text, c ≠ '\r' ∧ c ≠ '\n') :
    Source.normalLines text = text ++ ['\n'] := by
  induction text with
  | nil => rfl
  | cons c text ih =>
    rw [forall_mem_cons] at htext
    obtain ⟨⟨hreturn, hline⟩, htext⟩ := htext
    rw [Source.normalLines]
    · simp [hreturn, hline, ih htext]
    · intro rest heq
      exact absurd heq hreturn

theorem indentation_solid (hc : c ∉ ['\n', '\\', '#']) (hgap : Source.isGap c = false)
    (cs : List Char) : Source.indentation (0, 0) 0 (c :: cs) = some ⟨(0, 0), 0, c :: cs⟩ := by
  simp only [mem_cons, not_mem_nil, or_false, not_or] at hc
  simp only [Source.isGap, Bool.or_eq_false_iff, beq_eq_false_iff_ne] at hgap
  rw [Source.indentation] <;> simp [hc, hgap]

theorem scan_fresh (hrest : s.rest = c :: cs)
    (hc : c ∉ ['\n', '\\', '#']) (hgap : Source.isGap c = false) (hbrackets : s.brackets = [])
    (hindents : s.indents = []) :
    Source.scan (fuel + 1) true s = Source.scan fuel false (s.advance (c :: cs)) := by
  have hnext : { s.advance (c :: cs) with indents := [] } = s.advance (c :: cs) := by
    simp [LexState.advance, hindents]
  rw [Source.scan, hrest, indentation_solid hc hgap]
  simp only [mem_cons, not_mem_nil, or_false, not_or] at hc
  simp only [Option.bind_eq_bind, Option.bind_some, hbrackets, hindents, isEmpty_nil, if_true]
  split
  · next heq => exact absurd heq (cons_ne_nil c cs)
  · next heq => exact absurd (List.cons.inj heq).1 hc.2.2
  · next heq => exact absurd (List.cons.inj heq).1 hc.1
  · have hmarks :
        Source.blockMarks [] (if (0 == 0) = true then (0, 0) else (0, 0)) = some ([], []) := rfl
    rw [hmarks, Option.bind_some]
    dsimp only at hnext ⊢
    rw [hnext]
    cases Source.scan fuel false (s.advance (c :: cs)) <;> rfl

end DataDiagram.Assignment
