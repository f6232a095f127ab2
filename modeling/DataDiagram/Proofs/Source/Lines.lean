import DataDiagram.Source.Lexer
import DataDiagram.Text.Lines
import Mathlib.Data.List.Basic
import DataDiagram.Static.Check
/-!
# Places of tokens

Tokens stand at places of the text.  What is scanned is always a rest of the text, and its place is
told by what has been read before it.
-/

namespace DataDiagram.Source

open List

/-! ## Rests of texts -/

variable {cs fraction : List Char} {α : Type} {v : Datum} {point : Bool} {mode : StringMode}
  {c quote : Char}
  {s : LexState} {ts : List Token} {depth : Nat × Nat} {base : Nat} {rest whole content : List Char}
  {kind : TokenKind} {start p q : Position}

theorem indentation_suffix {joined : Nat} {i : Indentation}
    (h : indentation depth joined cs = some i) : i.rest <:+ cs := by
  fun_induction indentation depth joined cs with
  | case1 _ _ _ ih | case2 _ _ _ ih | case3 _ _ _ ih => exact (ih h).trans (suffix_cons ..)
  | case4 _ _ c rest ih =>
    exact (ih h).trans ((suffix_cons '\n' _).trans (suffix_cons '\\' _))
  | case5 => cases h
  | case6 =>
    cases h
    exact suffix_rfl

theorem digitRun_suffix {digits after : List Char}
    (h : digitRun base cs = some (digits, after)) : after <:+ cs := by
  fun_induction digitRun base cs generalizing digits after with
  | case1 =>
    cases h
    exact suffix_rfl
  | case2 c rest hdigit ih => exact (ih h).trans (suffix_cons ..)
  | case3 | case4 => cases h
  | case5 c rest _ _ _ ih =>
    obtain ⟨p, hp, hrest⟩ := Option.bind_eq_some_iff.1 h
    cases hrest
    exact (ih hp).trans (suffix_cons ..)
  | case6 =>
    cases h
    exact suffix_rfl

theorem suffix_of_bind {β : Type} {x : Option (α × List Char)}
    {f : α × List Char → Option (β × List Char)} {b : β} (h : x >>= f = some (b, rest))
    (hx : ∀ a after, x = some (a, after) → after <:+ cs)
    (hf : ∀ a after, f (a, after) = some (b, rest) → rest <:+ after) : rest <:+ cs := by
  obtain ⟨⟨a, after⟩, hp, hrest⟩ := Option.bind_eq_some_iff.1 h
  exact (hf a after hrest).trans (hx a after hp)

theorem suffix_of_pure {a b : α} (h : some (a, cs) = some (b, rest)) : rest <:+ cs := by
  cases h
  exact suffix_rfl

theorem basedNumber_suffix (h : basedNumber base cs = some (v, rest)) : rest <:+ cs :=
  suffix_of_bind h (fun _ _ => digitRun_suffix) fun _ _ hrest =>
    suffix_of_pure (Option.ite_none_left_eq_some.1 hrest).2

theorem exponentPart_suffix {n : Option Int} (h : exponentPart cs = some (n, rest)) :
    rest <:+ cs := by
  revert h
  fun_cases exponentPart cs with
  | case1 e he d more hd | case3 e he d more hd  =>
    intro h
    have hmore := suffix_of_bind h (fun _ _ => digitRun_suffix) fun _ _ => suffix_of_pure
    exact (hmore.trans (suffix_cons ..)).trans (suffix_cons ..)
  | case5 e he d more _ _ hd =>
    intro h
    have hmore := suffix_of_bind h (fun _ _ => digitRun_suffix) fun _ _ => suffix_of_pure
    exact hmore.trans (suffix_cons ..)
  | case2 | case4 => exact nofun
  | case6 | case7 | case8 | case9 => exact suffix_of_pure

theorem decimalNumber_suffix
    (h : decimalNumber whole point fraction cs = some (v, rest)) : rest <:+ cs := by
  refine suffix_of_bind h (fun _ _ => exponentPart_suffix) fun n more hmore => ?_
  simp only at hmore
  split at hmore
  · exact (suffix_of_pure (Option.ite_none_right_eq_some.1 hmore).2).trans (suffix_cons ..)
  · exact (suffix_of_pure (Option.ite_none_right_eq_some.1 hmore).2).trans (suffix_cons ..)
  · have hend := (Option.ite_none_left_eq_some.1 hmore).2
    split at hend
    · exact suffix_of_pure hend
    · exact suffix_of_pure
        (Option.ite_none_left_eq_some.1 (Option.ite_none_left_eq_some.1 hend).2).2

theorem scanNumber_suffix (h : scanNumber cs = some (v, rest)) : rest <:+ cs := by
  revert h
  fun_cases scanNumber cs with
  | case1 | case2 | case3 | case4 | case5 | case6 =>
    intro h
    exact ((basedNumber_suffix h).trans (suffix_cons ..)).trans (suffix_cons ..)
  | case7 more =>
    intro h
    refine List.IsSuffix.trans ?_ (suffix_cons '.' more)
    exact suffix_of_bind h (fun _ _ => digitRun_suffix) fun _ _ => decimalNumber_suffix
  | case8 =>
    intro h
    refine suffix_of_bind h (fun _ _ => digitRun_suffix) fun whole after hafter => ?_
    simp only at hafter
    split at hafter
    · refine List.IsSuffix.trans ?_ (suffix_cons '.' _)
      split at hafter
      · exact suffix_of_bind hafter (fun _ _ => digitRun_suffix) fun _ _ => decimalNumber_suffix
      · exact decimalNumber_suffix hafter
    · exact (decimalNumber_suffix hafter).trans (suffix_cons ..)
    · exact decimalNumber_suffix hafter

theorem Symbol.split?_suffix {s : Symbol} (h : Symbol.split? cs = some (s, rest)) :
    rest <:+ cs := by
  unfold Symbol.split? at h
  split at h
  all_goals cases h
  all_goals simp [suffix_cons_iff]

/-- A character that takes one column of a line. -/
def Plain (c : Char) : Prop := c.toNat < 128 ∧ c ≠ '\n'

theorem plain_of_toLower (h : Plain c.toLower) : Plain c := by
  unfold Char.toLower at h
  split at h
  · rename_i hc
    have hle : c.toNat ≤ 90 := UInt32.le_iff_toNat_le.1 hc.2
    have hge : 65 ≤ c.toNat := UInt32.le_iff_toNat_le.1 hc.1
    refine ⟨by omega, ?_⟩
    rintro rfl
    exact absurd hge (by decide)
  · exact h

theorem plain_of_isQuote (h : isQuote c = true) : Plain c := by
  obtain rfl | rfl : c = '\'' ∨ c = '"' := by simpa [isQuote] using h
  all_goals exact ⟨by decide, by decide⟩

/-- Some letters may stand before the quote of a string. -/
theorem stringMode?_eq {body : List Char} (h : stringMode? cs = some (mode, body)) :
    ∃ letters quote rest, body = quote :: rest ∧ cs = letters ++ body ∧ isQuote quote = true ∧
      ∀ c ∈ letters, Plain c := by
  have hletter : ∀ {c d : Char}, c.toLower = d → Plain d → Plain c :=
    fun heq hd => plain_of_toLower (heq ▸ hd)
  revert h
  fun_cases stringMode? cs with
  | case1 c rest hc =>
    rintro ⟨⟩
    exact ⟨[], c, rest, rfl, rfl, hc, forall_mem_nil _⟩
  | case2 c _ d rest hd hc | case3 c _ d rest hd hc | case4 c _ d rest hd hc
  | case5 c _ d rest hd hc =>
    rintro ⟨⟩
    have hplain := hletter hc ⟨by decide, by decide⟩
    exact ⟨[c], d, rest, rfl, rfl, hd, forall_mem_singleton.2 hplain⟩
  | case7 c _ d _ e rest he hd hc | case8 c _ d _ e rest he hd hc | case9 c _ d _ e rest he hd hc
  | case10 c _ d _ e rest he hd hc =>
    rintro ⟨⟩
    have hplain := hletter hc ⟨by decide, by decide⟩
    have hplain' := hletter hd ⟨by decide, by decide⟩
    exact ⟨[c, d], e, rest, rfl, rfl, he,
      forall_mem_cons.2 ⟨hplain, forall_mem_singleton.2 hplain'⟩⟩
  | _ => rintro ⟨⟩

/-- The content of a string is followed by the quotes that end it. -/
theorem stringBody_eq {long : Bool} (h : stringBody quote long cs = some (content, rest)) :
    cs = content ++ (replicate (if long then 3 else 1) quote ++ rest) := by
  fun_induction stringBody quote long cs generalizing content rest with
  | case1 | case6 => cases h
  | case2 _ _ ih | case4 _ _ _ _ _ ih | case7 _ _ _ _ _ _ ih =>
    obtain ⟨⟨body, after⟩, hp, hrest⟩ := Option.bind_eq_some_iff.1 h
    cases hrest
    rw [ih hp]
    simp_all
  | case3 c more _ hlong hquote =>
    cases h
    obtain ⟨hc, htake⟩ := Bool.and_eq_true_iff.1 hquote
    rw [if_pos hlong, beq_iff_eq.1 hc]
    nth_rw 1 [← take_append_drop 2 more, beq_iff_eq.1 htake]
    rfl
  | case5 c more _ hlong hquote =>
    cases h
    simp_all

/-- As many quotes stand before the content of a string as after it. -/
theorem scanString_eq (h : scanString (quote :: cs) = some (content, rest)) :
    ∃ n, quote :: cs = replicate (n + 1) quote ++
    (content ++ (replicate (n + 1) quote ++ rest)) := by
  revert h
  generalize hcs : quote :: cs = ds
  fun_cases scanString ds with
  | case1 a b c more habc =>
    intro h
    obtain ⟨rfl, -⟩ := List.cons.inj hcs
    obtain ⟨rfl, rfl⟩ : quote = b ∧ b = c := by simpa using habc
    exact ⟨2, congrArg ([quote, quote, quote] ++ ·) (stringBody_eq h)⟩
  | case2 a b c more _ hab =>
    rintro ⟨⟩
    obtain ⟨rfl, -⟩ := List.cons.inj hcs
    obtain rfl := beq_iff_eq.1 hab
    exact ⟨0, rfl⟩
  | case3 a b c more _ hab =>
    intro h
    obtain ⟨rfl, -⟩ := List.cons.inj hcs
    exact ⟨0, congrArg (quote :: ·) (stringBody_eq h)⟩
  | case4 a b hab =>
    rintro ⟨⟩
    obtain ⟨rfl, -⟩ := List.cons.inj hcs
    obtain rfl := beq_iff_eq.1 hab
    exact ⟨0, rfl⟩
  | case5 | case6 => rintro ⟨⟩

/-! ## Ends of lines -/

attribute [local simp] normalLines

theorem exists_normalLines_eq (cs : List Char) : ∃ init, normalLines cs = init ++ ['\n'] := by
  fun_induction normalLines cs with
  | case1 => exact ⟨[], rfl⟩
  | case2 rest ih =>
    obtain ⟨init, hinit⟩ := ih
    split
    · exact ⟨[], rfl⟩
    · exact ⟨'\n' :: init, by rw [hinit]; rfl⟩
  | case3 c rest _ d ih =>
    obtain ⟨init, hinit⟩ := ih
    split
    · rename_i hlast
      have hd : d = '\n' := by simpa using (Bool.and_eq_true_iff.1 hlast).2
      exact ⟨[], by rw [hd]; rfl⟩
    · exact ⟨d :: init, by rw [hinit]; rfl⟩

theorem return_not_mem_normalLines (cs : List Char) : '\r' ∉ normalLines cs := by
  fun_induction normalLines cs with
  | case1 => decide
  | case2 rest ih => split <;> simp [ih]
  | case3 c rest _ d ih =>
    have hd : '\r' ≠ d := by
      by_cases hc : c = '\r'
      · simp [d, hc]
      · simpa [d, hc] using Ne.symm hc
    split <;> simp [hd, ih]

theorem normalLines_append_paren (h : '\r' ∉ cs) :
    normalLines (cs ++ [')']) = cs ++ [')', '\n'] := by
  induction cs with
  | nil => rfl
  | cons c cs ih =>
    rw [mem_cons, not_or] at h
    have hc : (c == '\r') = false := beq_eq_false_iff_ne.2 (Ne.symm h.1)
    rw [cons_append, normalLines.eq_3 _ _ fun _ hreturn => absurd hreturn (Ne.symm h.1), ih h.2]
    simp [hc]

/-! ## Places -/

theorem positionAfter_append (p : Position) (as bs : List Char) :
    positionAfter p (as ++ bs) = positionAfter (positionAfter p as) bs := foldl_append

theorem Plain.positionAfter_eq (h : Plain c) (p : Position) :
    positionAfter p [c] = ⟨p.line, p.column + 1⟩ := by
  have hsize : c.utf8Size = 1 :=
    Char.utf8Size_eq_one_iff.2 (UInt32.le_iff_toNat_le.2 (Nat.le_of_lt_succ h.1))
  simp [positionAfter, hsize, h.2]

theorem positionAfter_of_plain (h : ∀ c ∈ cs, Plain c) (p : Position) :
    positionAfter p cs = ⟨p.line, p.column + cs.length⟩ := by
  induction cs generalizing p with
  | nil => simp [positionAfter]
  | cons c cs ih =>
    rw [forall_mem_cons] at h
    rw [← singleton_append, positionAfter_append, h.1.positionAfter_eq, ih h.2]
    simp
    omega

/-- The place in a text, which starts at `start`, from which on some characters are left. -/
def Stands (start : Position) (cs : List Char) (p : Position) (rest : List Char) : Prop :=
  ∃ before, before ++ rest = cs ∧ positionAfter start before = p

theorem Stands.suffix (h : Stands start cs p rest) : rest <:+ cs := by
  obtain ⟨before, hbefore, -⟩ := h
  exact ⟨before, hbefore⟩

theorem Stands.append {taken : List Char} (h : Stands start cs p (taken ++ rest)) :
    Stands start cs (positionAfter p taken) rest := by
  obtain ⟨before, hbefore, rfl⟩ := h
  exact ⟨before ++ taken, by rw [append_assoc, hbefore], positionAfter_append ..⟩

theorem Stands.advance (h : Stands start cs s.position s.rest) (hrest : rest <:+ s.rest) :
    Stands start cs (s.advance rest).position rest := by
  obtain ⟨taken, htaken⟩ := hrest
  have htake : s.rest.take (s.rest.length - rest.length) = taken := by
    rw [← htaken]
    simp
  rw [LexState.advance, htake]
  exact (htaken ▸ h).append

/-- What a token says of the text from its place on: a number can be written as a constant, and the
content of a formatted string stands between plain characters, as many as are told, and a quote. -/
def TokenKind.Fits (cs : List Char) : TokenKind → Prop
  | .number v => Static.unwritable? v = none
  | .formatted _ lead content => '\r' ∉ content ∧ ∃ opening quote after, opening ≠ [] ∧
    cs = opening ++ (content ++ quote :: after) ∧ opening.length = lead ∧ (∀ c ∈ opening, Plain c) ∧
    isQuote quote = true
  | _ => True

/-- A token of a text that starts at `start`.  Blocks that end with the text end on its last
line. -/
inductive Token.Within (start : Position) (cs : List Char) : Token → Prop
  | here {kind : TokenKind} {p : Position} {rest : List Char} :
    Stands start cs p rest → rest ≠ [] → kind.Fits rest → Within start cs ⟨kind, p⟩
  | blockEnd {p : Position} {rest : List Char} :
    Stands start cs p rest → rest ≠ [] → Within start cs ⟨.dedent, ⟨p.line, 0⟩⟩

theorem stringToken_fits {lead : Nat} (h : stringToken mode lead content = some kind)
    (hfits : TokenKind.Fits cs (.formatted mode.raw lead content)) : kind.Fits cs := by
  unfold stringToken at h
  split at h
  · cases h
    exact hfits
  · obtain ⟨value, -, hkind⟩ := Option.bind_eq_some_iff.1 h
    cases hkind
    split <;> exact trivial

theorem wordToken_fits {word : List Char} (h : wordToken word = some kind) : kind.Fits cs := by
  unfold wordToken at h
  split at h
  · cases h
    exact trivial
  · cases (Option.ite_none_right_eq_some.1 h).2
    exact trivial

theorem written_basedNumber
    (h : basedNumber base cs = some (v, rest)) : Static.unwritable? v = none := by
  obtain ⟨⟨digits, after⟩, -, h⟩ := Option.bind_eq_some_iff.1 h
  cases (Option.ite_none_left_eq_some.1 h).2
  rw [Static.unwritable?]

theorem written_decimalNumber
    (h : decimalNumber whole point fraction cs = some (v, rest)) : Static.unwritable? v = none := by
  obtain ⟨⟨exponent, after⟩, -, h⟩ := Option.bind_eq_some_iff.1 h
  simp only at h
  split at h
  · cases (Option.ite_none_right_eq_some.1 h).2
    rw [Static.unwritable?]
  · cases (Option.ite_none_right_eq_some.1 h).2
    rw [Static.unwritable?]
  · have hend := (Option.ite_none_left_eq_some.1 h).2
    split at hend
    · cases hend
      rw [Static.unwritable?]
    · cases (Option.ite_none_left_eq_some.1 (Option.ite_none_left_eq_some.1 hend).2).2
      rw [Static.unwritable?]

theorem written_scanNumber (h : scanNumber cs = some (v, rest)) : Static.unwritable? v = none := by
  revert h
  fun_cases scanNumber cs with
  | case1 | case2 | case3 | case4 | case5 | case6 => exact written_basedNumber
  | case7 more =>
    intro h
    obtain ⟨⟨fraction, after⟩, -, h⟩ := Option.bind_eq_some_iff.1 h
    exact written_decimalNumber h
  | case8 =>
    intro h
    obtain ⟨⟨whole, after⟩, -, h⟩ := Option.bind_eq_some_iff.1 h
    simp only at h
    split at h
    · split at h
      · obtain ⟨⟨fraction, more⟩, -, h⟩ := Option.bind_eq_some_iff.1 h
        exact written_decimalNumber h
      · exact written_decimalNumber h
    · exact written_decimalNumber h
    · exact written_decimalNumber h

/-- What a token leaves, and what it says of the text. -/
theorem scanToken_spec (h : scanToken cs = some (kind, rest)) (hreturn : '\r' ∉ cs) :
    rest <:+ cs ∧ kind.Fits cs := by
  have hplain : ∀ {α : Type} {x : Option (α × List Char)} {f : α → TokenKind},
      (∀ a after, x = some (a, after) → after <:+ cs ∧ (f a).Fits cs) →
      (x.bind fun p => some (f p.1, p.2)) = some (kind, rest) → rest <:+ cs ∧ kind.Fits cs := by
    intro α x f hx hbind
    obtain ⟨⟨a, after⟩, ha, hrest⟩ := Option.bind_eq_some_iff.1 hbind
    cases hrest
    exact hx a after ha
  revert h
  fun_cases scanToken cs with
  | case1 _ mode body hmode =>
    intro h
    obtain ⟨⟨content, after⟩, hstring, hrest⟩ := Option.bind_eq_some_iff.1 h
    obtain ⟨token, htoken, hrest⟩ := Option.bind_eq_some_iff.1 hrest
    cases hrest
    obtain ⟨letters, quote, more, rfl, hcs, hquote, hletters⟩ := stringMode?_eq hmode
    obtain ⟨n, hbody⟩ := scanString_eq hstring
    have hopening : cs = letters ++ replicate (n + 1) quote ++
        (content ++ quote :: (replicate n quote ++ rest)) := by
      rw [hcs, hbody, replicate_succ, append_assoc]
      rfl
    have hlead : (letters ++ replicate (n + 1) quote).length = cs.length - (quote :: more).length +
        ((quote :: more).length - content.length - rest.length) / 2 := by
      rw [hcs, hbody]
      simp only [length_append, length_replicate]
      omega
    refine ⟨?_, stringToken_fits htoken ⟨fun hmem => hreturn ?_, _, quote, _, ?_, hopening,
      hlead, ?_, hquote⟩⟩
    · rw [hopening]
      exact ((suffix_append ..).trans (suffix_cons ..)).trans
        ((suffix_append ..).trans (suffix_append ..))
    · rw [hopening]
      simp [hmem]
    · simp
    · simp only [forall_mem_append]
      exact ⟨hletters, fun c hc => eq_of_mem_replicate hc ▸ plain_of_isQuote hquote⟩
  | case2 d more =>
    exact hplain (f := .number) fun _ _ h => ⟨scanNumber_suffix h, written_scanNumber h⟩
  | case3 d more => exact hplain (f := .symbol) fun _ _ h => ⟨Symbol.split?_suffix h, trivial⟩
  | case4 c more =>
    exact hplain (f := .number) fun _ _ h => ⟨scanNumber_suffix h, written_scanNumber h⟩
  | case5 c more =>
    intro h
    obtain ⟨token, htoken, hrest⟩ := Option.bind_eq_some_iff.1 h
    cases hrest
    exact ⟨dropWhile_suffix _, wordToken_fits htoken⟩
  | case6 c more => exact hplain (f := .symbol) fun _ _ h => ⟨Symbol.split?_suffix h, trivial⟩
  | case7 => rintro ⟨⟩

theorem blockMarks_fits {indents left : List (Nat × Nat)} {marks : List TokenKind}
    (h : blockMarks indents depth = some (marks, left)) : ∀ kind ∈ marks, kind.Fits cs := by
  revert h
  fun_cases blockMarks indents depth with
  | case1 | case4 =>
    intro h
    cases h
    simp [TokenKind.Fits]
  | case2 | case3 | case6 => rintro ⟨⟩
  | case5 =>
    intro h
    cases h
    intro kind hkind
    rw [eq_of_mem_replicate hkind]
    exact trivial

/-- Every token of a text stands at one of its places. -/
theorem within_scan {fuel : Nat} {fresh : Bool} (hend : ∃ init, cs = init ++ ['\n'])
    (hreturn : '\r' ∉ cs)
    (hs : Stands start cs s.position s.rest) (h : scan fuel fresh s = some ts) :
    ∀ t ∈ ts, t.Within start cs := by
  revert h
  fun_induction scan fuel fresh s generalizing ts with
  | case1 => rintro ⟨⟩
  | case2 fuel s ihComment ihBlank ihLine ihBrackets =>
    intro h
    obtain ⟨i, hi, h⟩ := Option.bind_eq_some_iff.1 h
    have hnext := hs.advance (indentation_suffix hi)
    split at h
    · rename_i hnil
      cases (Option.ite_none_right_eq_some.1 h).2
      obtain ⟨init, hinit⟩ := hend
      obtain ⟨before, hbefore, hposition⟩ := hnext
      rw [hnil, append_nil, hinit] at hbefore
      rw [hbefore, positionAfter_append] at hposition
      have hline : (positionAfter start init).line = (s.advance i.rest).position.line - 1 := by
        rw [← hposition]
        show _ = _ + 1 - 1
        omega
      intro t ht
      rw [eq_of_mem_replicate ht]
      have hlast : Token.Within start cs ⟨.dedent, ⟨(positionAfter start init).line, 0⟩⟩ :=
        .blockEnd ⟨init, hinit.symm, rfl⟩ (cons_ne_nil _ _)
      rwa [hline] at hlast
    · rename_i rest hrest
      have hsuffix : (rest.dropWhile (· != '\n')).drop 1 <:+ i.rest :=
        hrest ▸ ((drop_suffix ..).trans (dropWhile_suffix _)).trans (suffix_cons ..)
      exact ihComment i rest (hnext.advance hsuffix) h
    · rename_i rest hrest
      exact ihBlank i rest (hnext.advance (hrest ▸ suffix_cons ..)) h
    · rename_i hne _ _
      split at h
      · obtain ⟨⟨marks, indents⟩, hmarks, h⟩ := Option.bind_eq_some_iff.1 h
        obtain ⟨more, hmore, hts⟩ := Option.bind_eq_some_iff.1 h
        cases hts
        refine forall_mem_append.2 ⟨forall_mem_map.2 fun kind hkind => ?_,
          ihLine i indents hnext hmore⟩
        exact .here hnext hne (blockMarks_fits hmarks kind hkind)
      · exact ihBrackets i hnext h
  | case3 => exact nofun
  | case4 =>
    rename_i next rest hrest _ ih
    intro h
    obtain ⟨more, hmore, hts⟩ := Option.bind_eq_some_iff.1 h
    cases hts
    have hnext : Stands start cs next.position next.rest := hs.advance (dropWhile_suffix isGap)
    refine forall_mem_cons.2 ⟨.here hnext ?_ trivial, ih (hnext.advance ?_) hmore⟩
    · exact hrest ▸ cons_ne_nil _ _
    · exact hrest ▸ suffix_cons ..
  | case5 =>
    rename_i next rest hrest _ ih
    have hnext : Stands start cs next.position next.rest := hs.advance (dropWhile_suffix isGap)
    exact ih (hnext.advance (hrest ▸ suffix_cons ..))
  | case6 =>
    rename_i next c rest hrest ih
    have hnext : Stands start cs next.position next.rest := hs.advance (dropWhile_suffix isGap)
    exact ih (hnext.advance (hrest ▸ (suffix_cons ..).trans (suffix_cons ..)))
  | case7 =>
    rename_i next rest hrest ih
    have hnext : Stands start cs next.position next.rest := hs.advance (dropWhile_suffix isGap)
    exact ih (hnext.advance (hrest ▸ (dropWhile_suffix _).trans (suffix_cons ..)))
  | case8 =>
    rename_i next hne _ _ _ ih
    intro h
    obtain ⟨⟨kind, rest⟩, htoken, h⟩ := Option.bind_eq_some_iff.1 h
    obtain ⟨brackets, -, h⟩ := Option.bind_eq_some_iff.1 h
    obtain ⟨more, hmore, hts⟩ := Option.bind_eq_some_iff.1 h
    cases hts
    have hnext : Stands start cs next.position next.rest := hs.advance (dropWhile_suffix isGap)
    obtain ⟨hrest, hfits⟩ := scanToken_spec htoken fun hmem => hreturn (hnext.suffix.subset hmem)
    exact forall_mem_cons.2 ⟨.here hnext hne hfits, ih rest brackets (hnext.advance hrest) hmore⟩

theorem within_tokensFrom {text : List Char} (h : tokensFrom start text = some ts) :
    ∀ t ∈ ts, t.Within start (normalLines text) :=
  within_scan (exists_normalLines_eq text) (return_not_mem_normalLines text) ⟨[], rfl, rfl⟩ h

end DataDiagram.Source
