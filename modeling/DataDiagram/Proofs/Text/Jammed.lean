import DataDiagram.Proofs.Text.Hole
/-!
# Templates that cannot be filled

The text of a homomorphism may show coefficients between braces.  In a template these braces are
read as a field that no text can be put into, so that filling fails, whatever the text, and in a way
that does not depend on what is closed after the hole.
-/

namespace DataDiagram.Text

open List

/-- Coefficients as they are shown: between braces nothing, or entries, the first of which starts
with a quotation mark. -/
inductive Entries : List Char → Prop
  | none : Entries ['{', '}']
  | some {mark : Char} {body : List Char} (hmark : mark = '\'' ∨ mark = '"')
      (hbody : Braceless body) : Entries ('{' :: mark :: (body ++ ['}']))

/-- A text whose only braces are those of coefficients. -/
inductive Fielded : List Char → Prop
  | plain {s : List Char} (hs : Braceless s) : Fielded s
  | entries {s d t : List Char} (hs : Braceless s) (hd : Entries d) (ht : Fielded t) :
      Fielded (s ++ (d ++ t))

variable {s : List Char} {f : TemplateField} {numbering : FieldNumbering}

theorem Fielded.append {t : List Char} (hs : Fielded s) (ht : Fielded t) : Fielded (s ++ t) := by
  induction hs with
  | plain hs =>
    cases ht with
    | plain ht => exact .plain (braceless_append.2 ⟨hs, ht⟩)
    | entries hs' hd ht' =>
      rw [← List.append_assoc]
      exact .entries (braceless_append.2 ⟨hs, hs'⟩) hd ht'
  | entries hs hd _ ih =>
    rw [List.append_assoc, List.append_assoc]
    exact .entries hs hd ih

/-- What follows in a context: the hole for an argument, and what closes it and all around it. -/
def closed (count : Nat) : List Char := '(' :: '{' :: '}' :: List.replicate (count + 1) ')'

/-! ## Scanning up to the end -/

theorem scanLayout_replicate (depth : Nat) (nested : Bool) (seen : List Char) (count : Nat) :
    scanLayout depth nested seen (List.replicate count ')') = .error .unclosedLayout := by
  induction count generalizing seen with
  | zero => rfl
  | succ count ih =>
    rw [List.replicate_succ, scanLayout]
    · exact ih _
    · decide
    · decide

/-- Whether and with which layout a field ends does not depend on how much is closed after it. -/
theorem exists_scanLayout (depth : Nat) (nested : Bool) (seen s : List Char) :
    ∃ r, ∀ count, (scanLayout depth nested seen (s ++ closed count)).map
      (fun found => (found.1, found.2.1)) = r := by
  induction s generalizing depth nested seen with
  | nil =>
    refine ⟨.error .unclosedLayout, fun count => ?_⟩
    have hend := scanLayout_replicate depth true ('}' :: '{' :: '(' :: seen) (count + 1)
    simp [closed, scanLayout, hend, Except.map]
  | cons c s ih =>
    by_cases hopen : c = '{'
    · subst hopen
      exact ih (depth + 1) true ('{' :: seen)
    by_cases hclose : c = '}'
    · subst hclose
      cases depth with
      | zero => exact ⟨.ok (seen.reverse, nested), fun _ => rfl⟩
      | succ depth => exact ih depth nested ('}' :: seen)
    · obtain ⟨r, hr⟩ := ih depth nested (c :: seen)
      refine ⟨r, fun count => ?_⟩
      rw [List.cons_append, scanLayout, hr count]
      · exact hopen
      · exact hclose

theorem exists_scanConversion (name s : List Char) :
    ∃ r, ∀ count, (scanConversion name (s ++ closed count)).map Prod.fst = r := by
  cases s with
  | nil => exact ⟨_, fun _ => rfl⟩
  | cons conversion s =>
    cases s with
    | nil => exact ⟨_, fun _ => rfl⟩
    | cons c s =>
      by_cases hclose : c = '}'
      · subst hclose
        exact ⟨.ok ⟨name, some conversion, [], false⟩, fun _ => rfl⟩
      by_cases hcolon : c = ':'
      · subst hcolon
        obtain ⟨r, hr⟩ := exists_scanLayout 0 false [] s
        refine ⟨r.map fun found => ⟨name, some conversion, found.1, found.2⟩, fun count => ?_⟩
        rw [← hr count]
        simp only [List.cons_append, scanConversion]
        cases scanLayout 0 false [] (s ++ closed count) <;> rfl
      · refine ⟨.error .textAfterConversion, fun count => ?_⟩
        rw [List.cons_append, List.cons_append, scanConversion]
        · rfl
        · exact hclose
        · exact hcolon

theorem scanField_bracket_replicate (seen : List Char) (count : Nat) :
    scanField true seen (List.replicate count ')') = .error .unclosedField := by
  induction count generalizing seen with
  | zero => rfl
  | succ count ih => exact ih _

/-- Whether and how a field is read does not depend on how much is closed at the end. -/
theorem exists_scanField (bracket : Bool) (seen s : List Char) :
    ∃ r, ∀ count, (scanField bracket seen (s ++ closed count)).map Prod.fst = r := by
  induction s generalizing bracket seen with
  | nil =>
    cases bracket with
    | false => exact ⟨.error .openInName, fun _ => rfl⟩
    | true =>
      refine ⟨.error .unclosedField, fun count => ?_⟩
      have hend := scanField_bracket_replicate ('}' :: '{' :: '(' :: seen) (count + 1)
      exact congrArg (Except.map Prod.fst) hend
  | cons c s ih =>
    simp only [List.cons_append, scanField]
    split
    · exact ih _ _
    split
    · exact ⟨.error .openInName, fun _ => rfl⟩
    split
    · exact ih _ _
    split
    · exact ⟨.ok ⟨seen.reverse, none, [], false⟩, fun _ => rfl⟩
    split
    · obtain ⟨r, hr⟩ := exists_scanLayout 0 false [] s
      refine ⟨r.map fun found => ⟨seen.reverse, none, found.1, found.2⟩, fun count => ?_⟩
      rw [← hr count]
      cases scanLayout 0 false [] (s ++ closed count) <;> rfl
    split
    · exact exists_scanConversion _ _
    · exact ih _ _


variable {rest before : List Char} {mark : Char} {args : List (List Char)} {e : TemplateError}

theorem name_of_scanConversion {name : List Char}
    (h : scanConversion name s = .ok (f, rest)) : f.name = name := by
  unfold scanConversion at h
  split at h
  · cases h
  · cases h
  · cases h
    rfl
  · cases hlayout : scanLayout 0 false [] _ with
    | error e =>
      rw [hlayout] at h
      cases h
    | ok found =>
      rw [hlayout] at h
      cases h
      rfl
  · cases h

/-- The name of a field starts with what has been read of it. -/
theorem name_of_scanField {bracket : Bool} {seen : List Char}
    (h : scanField bracket seen s = .ok (f, rest)) : seen.reverse <+: f.name := by
  induction s generalizing bracket seen with
  | nil => cases h
  | cons c s ih =>
    have hnext {b : Bool} (h : scanField b (c :: seen) s = .ok (f, rest)) :
        seen.reverse <+: f.name := by
      have hread := ih h
      rw [List.reverse_cons] at hread
      exact (List.prefix_append _ _).trans hread
    simp only [scanField] at h
    split at h
    · exact hnext h
    split at h
    · cases h
    split at h
    · exact hnext h
    split at h
    · cases h
      exact List.prefix_refl _
    split at h
    · cases hlayout : scanLayout 0 false [] s with
      | error e =>
        rw [hlayout] at h
        cases h
      | ok found =>
        rw [hlayout] at h
        cases h
        exact List.prefix_refl _
    split at h
    · exact name_of_scanConversion h ▸ List.prefix_refl _
    · exact hnext h

/-! ## Filling -/

theorem fieldValue_mark (hmark : mark = '\'' ∨ mark = '"') (name : List Char)
    (args : List (List Char)) (numbering : FieldNumbering) :
    fieldValue args (mark :: name) numbering = .error (.unknownName (String.ofList
      ((mark :: name).takeWhile fun c => c != '.' && c != '['))) := by
  have hfirst : (mark :: name).takeWhile (fun c => c != '.' && c != '[') =
      mark :: name.takeWhile fun c => c != '.' && c != '[' := by
    rcases hmark with rfl | rfl <;> rfl
  have hindex (rest : List Char) : fieldIndex? (mark :: rest) = .ok none := by
    rcases hmark with rfl | rfl <;> rfl
  simp only [fieldValue, hfirst, fieldPosition, hindex]
  rfl

theorem fillFrom_of_nextPiece (depth fuel : Nat)
    (hpiece : nextPiece [] s = .ok (before, some f, rest))
    (hvalue : fieldValue args f.name numbering = .error e) :
    fillFrom args (depth + 1) (fuel + 1) numbering s = .error e := by
  have hs : s.isEmpty = false := by
    cases s with
    | nil => cases hpiece
    | cons c s => rfl
  simp [fillFrom, hs, hpiece, hvalue, bind, Except.bind]

theorem fillFrom_of_nextPiece_error (depth fuel : Nat) (hpiece : nextPiece [] s = .error e) :
    fillFrom args (depth + 1) (fuel + 1) numbering s = .error e := by
  have hs : s.isEmpty = false := by
    cases s with
    | nil => cases hpiece
    | cons c s => rfl
  simp [fillFrom, hs, hpiece, bind, Except.bind]

/-- Entries stop the filling, however positions have been named before. -/
theorem exists_fillFrom_entries (hmark : mark = '\'' ∨ mark = '"') (s : List Char) :
    ∃ e, ∀ (before : List Char) (count depth fuel : Nat) (args : List (List Char))
      (numbering : FieldNumbering), Braceless before →
      fillFrom args (depth + 1) (fuel + 1) numbering
        (before ++ '{' :: mark :: (s ++ closed count)) = .error e := by
  obtain ⟨r, hr⟩ := exists_scanField false [] (mark :: s)
  have hpiece (before : List Char) (hbefore : Braceless before) (count : Nat) :
      nextPiece [] (before ++ '{' :: mark :: (s ++ closed count)) =
        (scanField false [] (mark :: s ++ closed count)).map
          fun found => (before, some found.1, found.2) := by
    rw [nextPiece_braceless_append hbefore, nextPiece]
    · simp only [append_nil, reverse_reverse, cons_append]
      cases scanField false [] (mark :: (s ++ closed count)) <;> rfl
    · simp
    · rcases hmark with rfl | rfl <;> simp
  cases r with
  | error e =>
    refine ⟨e, fun before count depth fuel args numbering hbefore => ?_⟩
    apply fillFrom_of_nextPiece_error
    rw [hpiece before hbefore]
    have hscan := hr count
    cases hfield : scanField false [] (mark :: s ++ closed count) with
    | error e' =>
      rw [hfield] at hscan
      cases hscan
      rfl
    | ok found =>
      rw [hfield] at hscan
      cases hscan
  | ok f =>
    refine ⟨.unknownName (String.ofList (f.name.takeWhile fun c => c != '.' && c != '[')),
      fun before count depth fuel args numbering hbefore => ?_⟩
    have hscan := hr count
    cases hfield : scanField false [] (mark :: s ++ closed count) with
    | error e' =>
      rw [hfield] at hscan
      cases hscan
    | ok found =>
      rw [hfield] at hscan
      cases hscan
      -- The mark is the first character that is read, so the name starts with it.
      obtain ⟨name, hname⟩ : ∃ name, found.1.name = mark :: name := by
        have hstart : scanField false [mark] (s ++ closed count) = .ok found := by
          rw [← hfield]
          rcases hmark with rfl | rfl <;> rfl
        obtain ⟨more, hmore⟩ := name_of_scanField hstart
        exact ⟨more, hmore.symm⟩
      have hvalue := fieldValue_mark hmark name args numbering
      rw [← hname] at hvalue
      have hfound : nextPiece [] (before ++ '{' :: mark :: (s ++ closed count)) =
          .ok (before, some found.1, found.2) := by
        rw [hpiece before hbefore, hfield]
        rfl
      exact fillFrom_of_nextPiece depth fuel hfound hvalue

/-- After the first position has been filled there is nothing left for another one. -/
theorem exists_fillFrom_automatic (hs : Fielded s) : ∃ e, ∀ (count fuel : Nat) (arg : List Char),
      fillFrom [arg] 2 (fuel + 1) (.automatic 1) (s ++ closed count) = .error e := by
  have hnext (arg : List Char) :
      fieldValue [arg] [] (.automatic 1) = .error (.missingPosition 1) := rfl
  cases hs with
  | plain hs =>
    refine ⟨.missingPosition 1, fun count fuel arg => ?_⟩
    have hbefore : Braceless (s ++ ['(']) := by simp [hs]
    have hpiece := nextPiece_hole hbefore (List.replicate (count + 1) ')')
    rw [append_assoc, singleton_append] at hpiece
    exact fillFrom_of_nextPiece 1 fuel hpiece (hnext arg)
  | @entries before d t hbefore hd ht =>
    cases hd with
    | none =>
      refine ⟨.missingPosition 1, fun count fuel arg => ?_⟩
      have hpiece := nextPiece_hole hbefore (t ++ closed count)
      have hshape : before ++ (['{', '}'] ++ t) ++ closed count =
          before ++ '{' :: '}' :: (t ++ closed count) := by simp
      rw [hshape]
      exact fillFrom_of_nextPiece 1 fuel hpiece (hnext arg)
    | @some mark body hmark hbody =>
      obtain ⟨e, he⟩ := exists_fillFrom_entries hmark (body ++ '}' :: t)
      refine ⟨e, fun count fuel arg => ?_⟩
      have hshape : before ++ ('{' :: mark :: (body ++ ['}']) ++ t) ++ closed count =
          before ++ '{' :: mark :: (body ++ '}' :: t ++ closed count) := by simp
      rw [hshape]
      exact he before count 1 fuel [arg] _ hbefore

theorem fillFrom_hole (hbefore : Braceless before) (arg after : List Char) (fuel : Nat) :
    fillFrom [arg] 2 (fuel + 1) .undecided (before ++ '{' :: '}' :: after) =
      (fillFrom [arg] 2 fuel (.automatic 1) after).map fun r => (before ++ arg ++ r.1, r.2) := by
  rw [fillFrom, if_neg (by simp)]
  simp only [nextPiece_hole hbefore, fieldValue_hole, convert, layOutValue, layOut, bind,
    Except.bind,
    pure, Except.pure]
  cases fillFrom [arg] 2 fuel (.automatic 1) after <;> rfl

/-- A template that shows coefficients before its hole cannot be filled. -/
theorem exists_fill_eq_error (hs : Fielded s) (hbraces : ¬Braceless s) :
    ∃ e, ∀ (before : List Char) (count : Nat) (arg : List Char), Braceless before →
      fill (before ++ (s ++ closed count)) arg = .error e := by
  cases hs with
  | plain hs => exact absurd hs hbraces
  | @entries inner d t hinner hd ht =>
    cases hd with
    | none =>
      obtain ⟨e, he⟩ := exists_fillFrom_automatic ht
      refine ⟨e, fun before count arg hbefore => ?_⟩
      have hshape : before ++ (inner ++ (['{', '}'] ++ t) ++ closed count) =
          before ++ inner ++ '{' :: '}' :: (t ++ closed count) := by simp
      have hstart : Braceless (before ++ inner) := braceless_append.2 ⟨hbefore, hinner⟩
      obtain ⟨fuel, hfuel⟩ : ∃ fuel, (before ++ inner ++ '{' :: '}' :: (t ++ closed count)).length =
          fuel + 1 := ⟨_, by simp; rfl⟩
      rw [fill, hshape, fillFrom_hole hstart, hfuel, he]
      rfl
    | @some mark body hmark hbody =>
      obtain ⟨e, he⟩ := exists_fillFrom_entries hmark (body ++ '}' :: t)
      refine ⟨e, fun before count arg hbefore => ?_⟩
      have hshape : before ++ (inner ++ ('{' :: mark :: (body ++ ['}']) ++ t) ++ closed count) =
          before ++ inner ++ '{' :: mark :: (body ++ '}' :: t ++ closed count) := by simp
      have hstart : Braceless (before ++ inner) := braceless_append.2 ⟨hbefore, hinner⟩
      rw [fill, hshape, he _ count 1 _ [arg] _ hstart]
      rfl

end DataDiagram.Text
