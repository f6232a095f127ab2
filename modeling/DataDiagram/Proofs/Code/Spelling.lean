import DataDiagram.Code.Print
import DataDiagram.Proofs.Source.Parts
/-!
# The text of expressions

The text that an expression is printed as, cut into parts: operands that are operations stand
between parentheses, and every operator has blanks around it.
-/

namespace DataDiagram.Code

open List

open DataDiagram.Source (Part Symbol TokenKind IsName)

/-! ## Expressions -/

/-- The operators with one operand, with the tokens that they are written as. -/
def signs : List (String × TokenKind) := [("-", .symbol .minus), ("not", .keyword .not_)]

/-- The operators with two operands. -/
def relations : List (String × TokenKind) :=
  [("+", .symbol .plus), ("-", .symbol .minus), ("*", .symbol .star), ("==", .symbol .equal),
   ("!=", .symbol .notEqual), ("<", .symbol .less), ("<=", .symbol .lessEqual),
     (">", .symbol .greater),
   (">=", .symbol .greaterEqual)]

/-- The operators with two or more operands. -/
def connectives : List (String × TokenKind) := [("and", .keyword .and_), ("or", .keyword .or_)]

def operators : List (String × TokenKind) := signs ++ relations ++ connectives

/-- An expression whose numbers are not negative and whose names are proper names.  No field is that
of an integer, because a point after a number belongs to the number. -/
inductive Plain : Code → Prop
  | int (ref : Option Origin) (n : Nat) : Plain (.constOf ref (.int n))
  | bool (ref : Option Origin) (b : Bool) : Plain (.constOf ref (.bool b))
  | name (ref : Option Origin) {id : String} (hid : IsName id) : Plain (.nameOf ref id)
  | attr (ref : Option Origin) {v : Code} {a : String} (hv : Plain v)
      (hint : ∀ r n, v ≠ .constOf r (.int n)) (ha : IsName a) : Plain (.attrOf ref v a)
  | item (ref : Option Origin) {v i : Code} (hv : Plain v) (hi : Plain i) : Plain (.item ref v i)
  | call (ref : Option Origin) {f : String} {args : List Code} (hf : IsName f)
      (hargs : ∀ c ∈ args, Plain c) : Plain (.callOf ref f args)
  | unary (ref : Option Origin) {s : String} {k : TokenKind} {c : Code} (hs : (s, k) ∈ signs)
      (hc : Plain c) : Plain (.opOf ref s [c])
  | binary (ref : Option Origin) {s : String} {k : TokenKind} {a b : Code} (hs : (s, k) ∈ relations)
      (ha : Plain a) (hb : Plain b) : Plain (.opOf ref s [a, b])
  | connected (ref : Option Origin) {s : String} {k : TokenKind} {c d : Code} {cs : List Code}
      (hs : (s, k) ∈ connectives) (hcs : ∀ x ∈ c :: d :: cs, Plain x) :
        Plain (.opOf ref s (c :: d :: cs))

mutual

/-- How deep brackets nest in the text of an expression. -/
def bracketDepth : Code → Nat
  | op _ _ (tuple cs) => operandsDepth cs
  | attr _ v _ => if v.isOp then bracketDepth v + 1 else bracketDepth v
  | item _ v i => max (if v.isOp then bracketDepth v + 1 else bracketDepth v) (bracketDepth i + 1)
  | call _ _ (tuple args) => argumentsDepth args + 1
  | _ => 0

def operandsDepth : List Code → Nat
  | [] => 0
  | c :: cs => max (if c.isOp then bracketDepth c + 1 else bracketDepth c) (operandsDepth cs)

def argumentsDepth : List Code → Nat
  | [] => 0
  | c :: cs => max (bracketDepth c) (argumentsDepth cs)

end

/-! ## Parts -/

def mark (text : String) (s : Symbol) : Part := .token text (.symbol s)

def operatorPart (s : String) : Part := .token s ((operators.lookup s).getD .newline)

/-- The parts of an operand. -/
def enclosed (c : Code) (ps : List Part) : List Part :=
  if c.isOp then mark "(" .openParen :: (ps ++ [mark ")" .closeParen]) else ps

mutual

/-- The parts of the text of an expression. -/
def parts : Code → List Part
  | constOf _ (.int n) => [.token (toString n) (.number (.int n))]
  | constOf _ (.bool b) => [.token (Datum.boolText b) (.keyword (if b then .true_ else .false_))]
  | nameOf _ id => [.token id (.name id)]
  | attrOf _ v a => enclosed v (parts v) ++ [mark "." .dot, .token a (.name a)]
  | item _ v i =>
    enclosed v (parts v) ++ mark "[" .openBracket :: (parts i ++ [mark "]" .closeBracket])
  | callOf _ f [] => [.token f (.name f), mark "(" .openParen, mark ")" .closeParen]
  | callOf _ f (c :: cs) =>
    .token f (.name f) :: mark "(" .openParen ::
      (parts c ++ laterArguments cs ++ [mark ")" .closeParen])
  | opOf _ s [c] => operatorPart s :: .blank :: enclosed c (parts c)
  | opOf _ s (c :: cs) => enclosed c (parts c) ++ laterOperands s cs
  | _ => []

def laterArguments : List Code → List Part
  | [] => []
  | c :: cs => mark "," .comma :: .blank :: (parts c ++ laterArguments cs)

def laterOperands (s : String) : List Code → List Part
  | [] => []
  | c :: cs => .blank :: operatorPart s :: .blank :: (enclosed c (parts c) ++ laterOperands s cs)

end

/-- The parts of an expression where it is an operand. -/
def operandParts (c : Code) : List Part := enclosed c c.parts

variable {c : Code} {cs : List Code} {ps : List Part}

attribute [local simp] parts laterArguments laterOperands isDisplayable allDisplayable print

theorem parts_opOf (ref : Option Origin) (s : String) (c d : Code) (cs : List Code) :
    parts (.opOf ref s (c :: d :: cs)) = c.operandParts ++ laterOperands s (d :: cs) := by
  rw [parts, operandParts]
  simp

theorem laterArguments_eq (cs : List Code) :
    laterArguments cs = cs.flatMap fun c => mark "," .comma :: .blank :: c.parts := by
  induction cs with
  | nil => rfl
  | cons c cs ih => simp [laterArguments, ih]

theorem laterOperands_eq (s : String) (cs : List Code) :
    laterOperands s cs = cs.flatMap fun c =>
    .blank :: operatorPart s :: .blank :: c.operandParts := by
  induction cs with
  | nil => rfl
  | cons c cs ih => simp [laterOperands, operandParts, ih]

/-! ## Printing -/

/-- Whether an expression is printed as the text of its parts. -/
def IsPrinted (c : Code) : Prop := ∃ t, c.print = .ok (.inline t) ∧ t.toList = Part.chars c.parts

theorem allDisplayable_iff : allDisplayable cs = true ↔ ∀ c ∈ cs, c.isDisplayable = true := by
  induction cs with
  | nil => simp [allDisplayable]
  | cons c cs ih => simp [allDisplayable, ih]

variable {s f t : String} {k : TokenKind} {d : Code} {p : String × TokenKind} {n : Nat}

theorem isDisplayable_of_mem_opOf {ref : Option Origin} (h : (opOf ref s cs).isDisplayable = true) :
    ∀ c ∈ cs, c.isDisplayable = true := by
  rw [isDisplayable, isDisplayable, Bool.and_eq_true, isDisplayable, allDisplayable_iff] at h
  exact h.2

theorem isDisplayable_of_mem_callOf {ref : Option Origin}
    (h : (callOf ref f cs).isDisplayable = true) : ∀ c ∈ cs, c.isDisplayable = true := by
  rw [isDisplayable, isDisplayable, Bool.and_eq_true, isDisplayable, allDisplayable_iff] at h
  exact h.2

theorem toList_intercalate (sep t : String) (ts : List String) :
    (sep.intercalate (t :: ts)).toList = t.toList ++ ts.flatMap fun u =>
    sep.toList ++ u.toList := by
  induction ts generalizing t with
  | nil => simp
  | cons u ts ih => simp [String.intercalate_cons_cons, ih]

theorem toList_operandText (ht : t.toList = Part.chars ps) :
    (operandText c t).toList = Part.chars (enclosed c ps) := by
  rw [operandText, enclosed]
  split
  · simp [Part.chars, mark, Part.text, ht]
  · exact ht

theorem printOperandList_eq (h : ∀ c ∈ cs, c.IsPrinted) : ∃ ts, printOperandList cs = .ok ts ∧
    ts.map String.toList = cs.map fun c => Part.chars c.operandParts := by
  induction cs with
  | nil => exact ⟨[], rfl, rfl⟩
  | cons c cs ih =>
    rw [forall_mem_cons] at h
    obtain ⟨⟨t, hprint, ht⟩, h⟩ := h
    obtain ⟨ts, hts, hmap⟩ := ih h
    refine ⟨operandText c t :: ts, ?_, ?_⟩
    · rw [printOperandList, hprint, hts]
      rfl
    · rw [map_cons, map_cons, hmap, toList_operandText ht, operandParts]

theorem toList_opText (ref : Option Origin) (s : String) {ts : List String} (hcs : cs ≠ [])
    (hts : ts.map String.toList = cs.map fun c => Part.chars c.operandParts) :
    (opText s ts).toList = Part.chars (parts (.opOf ref s cs)) := by
  match cs, ts with
  | [c], [t] =>
    rw [map_singleton, map_singleton, singleton_inj] at hts
    simp [opText, parts, Part.chars, operatorPart, Part.text, hts, operandParts]
  | c :: d :: cs, t :: u :: ts =>
    obtain ⟨hfirst, hmore⟩ := List.cons.inj hts
    have hflat : (u :: ts).flatMap (fun u => (" " ++ s ++ " ").toList ++ u.toList) =
        ((u :: ts).map String.toList).flatMap fun cs => (" " ++ s ++ " ").toList ++ cs := by
      rw [flatMap_map]
    rw [opText, toList_intercalate, hflat, hfirst, hmore, parts_opOf, laterOperands_eq,
      Part.chars_append]
    · simp [Part.chars, operatorPart, Part.text, flatMap_map, flatMap_assoc]
    · simp
  | [], _ => exact absurd rfl hcs
  | [_], [] | [_], _ :: _ :: _ | _ :: _ :: _, [] | _ :: _ :: _, [_] => simp at hts

theorem Plain.printedAs_eq (h : Plain c) (ht : c.print = .ok (.inline t)) :
    c.printedAs t = text t := by
  cases h with
  | name ref hid =>
    obtain rfl : _ = t := by
      simpa [print, shown, Bind.bind, Except.bind, Pure.pure, Except.pure] using ht
    rfl
  | _ => rfl

theorem printArgumentList_eq (hplain : ∀ c ∈ cs, Plain c) (h : ∀ c ∈ cs, c.IsPrinted) :
    ∃ ts : List String, printArgumentList cs = .ok (ts.map text) ∧
      ts.map String.toList = cs.map fun c => Part.chars c.parts := by
  induction cs with
  | nil => exact ⟨[], rfl, rfl⟩
  | cons c cs ih =>
    rw [forall_mem_cons] at h hplain
    obtain ⟨⟨t, hprint, ht⟩, h⟩ := h
    obtain ⟨ts, hts, hmap⟩ := ih hplain.2 h
    refine ⟨t :: ts, ?_, by rw [map_cons, map_cons, hmap, ht]⟩
    rw [printArgumentList, hprint, hts, map_cons, ← hplain.1.printedAs_eq hprint]
    rfl

theorem joinTexts_map (sep : String) (ts : List String) :
    joinTexts sep (ts.map text) = .ok (sep.intercalate ts) := by
  have htexts (start : Nat) : textsFrom start (ts.map text) = .ok ts := by
    induction ts generalizing start with
    | nil => rfl
    | cons t ts ih =>
      rw [map_cons, textsFrom, ih]
      rfl
  rw [joinTexts, htexts]
  rfl

theorem isPrinted_callOf (ref : Option Origin) (f : String) (hplain : ∀ c ∈ cs, Plain c)
    (h : ∀ c ∈ cs, c.IsPrinted) : (callOf ref f cs).IsPrinted := by
  obtain ⟨ts, hprint, hts⟩ := printArgumentList_eq hplain h
  refine ⟨f ++ "(" ++ ", ".intercalate ts ++ ")", ?_, ?_⟩
  · simp only [print, printArguments, hprint, Bind.bind, Except.bind, joinTexts_map]
    rfl
  · match cs, ts with
    | [], [] => simp [parts, Part.chars, mark, Part.text]
    | c :: cs, t :: ts =>
      obtain ⟨hfirst, hmore⟩ := List.cons.inj hts
      have hflat : ts.flatMap (fun u => ", ".toList ++ u.toList) =
          (ts.map String.toList).flatMap fun cs => ", ".toList ++ cs := by
        rw [flatMap_map]
      rw [String.toList_append, String.toList_append, String.toList_append, toList_intercalate,
        hflat,
        hfirst, hmore, parts, laterArguments_eq]
      simp [Part.chars, mark, Part.text, flatMap_map, flatMap_assoc]
    | [], _ :: _ | _ :: _, [] => simp at hts

theorem isPrinted_opOf (ref : Option Origin) (s : String) (hne : cs ≠ [])
    (h : ∀ c ∈ cs, c.isDisplayable = true → c.IsPrinted)
    (hdigits : (opOf ref s cs).isDisplayable = true) : (opOf ref s cs).IsPrinted := by
  obtain ⟨ts, hprint, hts⟩ :=
    printOperandList_eq fun c hc => h c hc (isDisplayable_of_mem_opOf hdigits c hc)
  refine ⟨opText s ts, ?_, toList_opText ref s hne hts⟩
  rw [print, printOperands, hprint]
  rfl

/-- Every expression is printed as the text of its parts, unless a number has too many digits. -/
theorem Plain.isPrinted (h : Plain c) : c.isDisplayable = true → c.IsPrinted := by
  induction h with
  | int ref n =>
    intro hdigits
    refine ⟨toString (n : Int), ?_, by simp [parts, Part.chars, Part.text]⟩
    rw [isDisplayable] at hdigits
    rw [print, displayed, if_pos hdigits]
    rfl
  | bool ref b => exact fun _ => ⟨Datum.boolText b, rfl, by simp [parts, Part.chars, Part.text]⟩
  | @name ref id hid => exact fun _ => ⟨id, rfl, by simp [parts, Part.chars, Part.text]⟩
  | @attr ref v a hv hint ha ih =>
    intro hdigits
    rw [isDisplayable, Bool.and_eq_true] at hdigits
    obtain ⟨t, hprint, ht⟩ := ih hdigits.1
    refine ⟨operandText v t ++ "." ++ a, by rw [print, hprint]; rfl, ?_⟩
    simp [toList_operandText ht, parts, Part.chars, mark, Part.text]
  | @item ref v i hv hi ihv ihi =>
    intro hdigits
    rw [isDisplayable, Bool.and_eq_true] at hdigits
    obtain ⟨t, hprint, ht⟩ := ihv hdigits.1
    obtain ⟨u, hindex, hu⟩ := ihi hdigits.2
    refine ⟨operandText v t ++ "[" ++ u ++ "]", by rw [print, hprint, hindex]; rfl, ?_⟩
    simp [toList_operandText ht, hu, parts, Part.chars, mark, Part.text]
  | @call ref f args hf hargs ih =>
    intro hdigits
    exact isPrinted_callOf ref f hargs fun c hc =>
      ih c hc (isDisplayable_of_mem_callOf hdigits c hc)
  | @unary ref s k c hs hc ih =>
    intro hdigits
    exact isPrinted_opOf ref s (by simp) (by simpa using ih) hdigits
  | @binary ref s k a b hs ha hb iha ihb =>
    intro hdigits
    exact isPrinted_opOf ref s (by simp) (by simpa using ⟨iha, ihb⟩) hdigits
  | @connected ref s k c d cs hs hcs ih =>
    intro hdigits
    exact isPrinted_opOf ref s (by simp) ih hdigits

/-! ## Tokens -/

/-- Whether the text of an expression ends where a character follows.  A point can follow what is
neither a number nor an operation. -/
def Ends (c : Code) (next : Char) : Prop :=
  next ∈ Assignment.terminators ∨ next = '.' ∧ c.isOp = false ∧ ∀ r n, c ≠ .constOf r (.int n)

variable {next : Char}

theorem Ends.isNameChar_eq (h : Ends c next) : Source.isNameChar next = false := by
  rcases h with h | ⟨rfl, -⟩
  · have hall : ∀ d ∈ Assignment.terminators, Source.isNameChar d = false := by decide
    exact hall next h
  · rfl

theorem Ends.mem_terminators (h : Ends c next) (hop : c.isOp = true) :
    next ∈ Assignment.terminators :=
  h.resolve_right fun h => Bool.noConfusion (hop.symm.trans h.2.1)

theorem cut_bracket {text : String} {s : Symbol} (h : (text, s) ∈ [("(", Symbol.openParen),
    (")", .closeParen), ("[", .openBracket), ("]", .closeBracket), (",", .comma)]) (next : Char) :
    Part.Cut next text (.symbol s) := by
  simp only [mem_cons, not_mem_nil, or_false, Prod.mk.injEq] at h
  rcases h with ⟨rfl, rfl⟩ | ⟨rfl, rfl⟩ | ⟨rfl, rfl⟩ | ⟨rfl, rfl⟩ | ⟨rfl, rfl⟩
  all_goals exact Part.cut_symbol rfl (by decide) (by decide) (by decide) fun _ => rfl

theorem forall_operators {P : String → TokenKind → Prop}
    (h : operators.Forall fun p => P p.1 p.2) (hs : (s, k) ∈ operators) : P s k :=
  forall_iff_forall_mem.1 h (s, k) hs

theorem cut_operator (h : (s, k) ∈ operators) : Part.Cut ' ' s k := by
  refine forall_operators (P := Part.Cut ' ') ?_ h
  repeat' apply And.intro
  all_goals first
    | exact Part.cut_symbol rfl (by decide) (by decide) (by decide) fun _ => rfl
    | exact Part.cut_word rfl rfl (by decide) (by decide) (by decide)

theorem operatorPart_eq (h : (s, k) ∈ operators) : operatorPart s = .token s k := by
  refine forall_operators (P := fun s k => operatorPart s = .token s k) ?_ h
  repeat' apply And.intro
  all_goals rfl

/-- Whether the text of an expression is cut into its parts wherever it may stand. -/
def IsCut (c : Code) : Prop := ∀ next, Ends c next → Part.Fits next c.parts

theorem IsCut.operand (h : c.IsCut)
    (hnext : next ∈ Assignment.terminators ∨ next = '.' ∧ ∀ r n, c ≠ .constOf r (.int n)) :
    Part.Fits next c.operandParts := by
  rw [operandParts, enclosed]
  by_cases hop : c.isOp = true
  · rw [if_pos hop]
    refine ⟨cut_bracket (by simp) _, Part.fits_append.2 ⟨?_, cut_bracket (by simp) _, trivial⟩⟩
    exact h ')' (.inl (by decide))
  · rw [if_neg hop]
    exact h next (hnext.imp_right fun h => ⟨h.1, by simpa using hop, h.2⟩)

theorem fits_laterArguments (h : ∀ c ∈ cs, c.IsCut) (hnext : next ∈ Assignment.terminators) :
    Part.Fits next (laterArguments cs) ∧
      (Part.chars (laterArguments cs)).headD next ∈ Assignment.terminators := by
  induction cs with
  | nil => exact ⟨trivial, hnext⟩
  | cons c cs ih =>
    rw [forall_mem_cons] at h
    obtain ⟨hmore, hhead⟩ := ih h.2
    refine ⟨⟨cut_bracket (by simp) _, Part.fits_append.2 ⟨h.1 _ (.inl hhead), hmore⟩⟩, ?_⟩
    exact (by decide : ',' ∈ Assignment.terminators)

theorem fits_laterOperands (hs : (s, k) ∈ operators) (h : ∀ c ∈ cs, c.IsCut)
    (hnext : next ∈ Assignment.terminators) : Part.Fits next (laterOperands s cs) ∧
      (Part.chars (laterOperands s cs)).headD next ∈ Assignment.terminators := by
  induction cs with
  | nil => exact ⟨trivial, hnext⟩
  | cons c cs ih =>
    rw [forall_mem_cons] at h
    obtain ⟨hmore, hhead⟩ := ih h.2
    rw [laterOperands, operatorPart_eq hs]
    refine ⟨⟨cut_operator hs, Part.fits_append.2 ⟨h.1.operand (.inl hhead), hmore⟩⟩, ?_⟩
    exact (by decide : ' ' ∈ Assignment.terminators)

theorem isCut_attrOf (ref : Option Origin) {a : String} (h : c.IsCut)
    (hint : ∀ r n, c ≠ .constOf r (.int n)) (ha : IsName a) : (attrOf ref c a).IsCut := by
  intro next hnext
  obtain ⟨d, ds, hchars, hdigit, hname, -⟩ := ha.exists_cons
  have hhead : (Part.chars [.token a (.name a)]).headD next = d := by
    simp [Part.chars, Part.text, hchars]
  have hpoint : Part.Cut ((Part.chars [.token a (.name a)]).headD next) "." (.symbol .dot) := by
    rw [hhead]
    exact Part.cut_dot hname hdigit
  rw [parts]
  refine Part.fits_append.2 ⟨h.operand (.inr ⟨rfl, hint⟩), hpoint, ?_⟩
  exact ⟨Part.cut_name ha hnext.isNameChar_eq, trivial⟩

theorem isCut_callOf (ref : Option Origin) (hf : IsName f) (h : ∀ c ∈ cs, c.IsCut) :
    (callOf ref f cs).IsCut := by
  intro next hnext
  cases cs with
  | nil =>
    rw [parts]
    exact ⟨Part.cut_name hf rfl, cut_bracket (by simp) _, cut_bracket (by simp) _, trivial⟩
  | cons c cs =>
    rw [forall_mem_cons] at h
    obtain ⟨hmore, hhead⟩ := fits_laterArguments h.2 (by decide : ')' ∈ Assignment.terminators)
    rw [parts]
    refine ⟨Part.cut_name hf rfl, cut_bracket (by simp) _, Part.fits_append.2 ⟨?_, ?_⟩⟩
    · exact Part.fits_append.2 ⟨h.1 _ (.inl hhead), hmore⟩
    · exact ⟨cut_bracket (by simp) _, trivial⟩

theorem isCut_opOf (ref : Option Origin) (hs : (s, k) ∈ operators)
    (h : ∀ x ∈ c :: d :: cs, x.IsCut) : (opOf ref s (c :: d :: cs)).IsCut := by
  intro next hnext
  rw [forall_mem_cons] at h
  obtain ⟨hmore, hhead⟩ := fits_laterOperands hs h.2 (hnext.mem_terminators rfl)
  rw [parts_opOf]
  exact Part.fits_append.2 ⟨h.1.operand (.inl hhead), hmore⟩

theorem mem_operators_of_signs (h : p ∈ signs) : p ∈ operators :=
  mem_append_left _ (mem_append_left _ h)

theorem mem_operators_of_relations (h : p ∈ relations) : p ∈ operators :=
  mem_append_left _ (mem_append_right _ h)

theorem mem_operators_of_connectives (h : p ∈ connectives) : p ∈ operators :=
  mem_append_right _ h

theorem Plain.isCut (h : Plain c) : c.isDisplayable = true → c.IsCut := by
  induction h with
  | int ref n =>
    intro hdigits next hnext
    -- A point would be taken into the number.
    have hend : next ∈ Assignment.terminators := hnext.resolve_right fun h => h.2.2 ref n rfl
    have hn : n < Nat.pow 10 Datum.maxDigits := by
      rw [isDisplayable, isDisplayable, Datum.isDisplayable, Datum.tooLong, Bool.not_eq_true',
        decide_eq_false_iff_not, Nat.not_le] at hdigits
      exact hdigits
    exact ⟨Part.cut_number hn hend, trivial⟩
  | bool ref b =>
    intro _ next hnext
    cases b with
    | true => exact ⟨Part.cut_word rfl rfl (by decide) (by decide) hnext.isNameChar_eq, trivial⟩
    | false => exact ⟨Part.cut_word rfl rfl (by decide) (by decide) hnext.isNameChar_eq, trivial⟩
  | name ref hid => exact fun _ next hnext => ⟨Part.cut_name hid hnext.isNameChar_eq, trivial⟩
  | @attr ref v a hv hint ha ih =>
    intro hdigits
    rw [isDisplayable, Bool.and_eq_true] at hdigits
    exact isCut_attrOf ref (ih hdigits.1) hint ha
  | @item ref v i hv hi ihv ihi =>
    intro hdigits next hnext
    rw [isDisplayable, Bool.and_eq_true] at hdigits
    have hindex := ihi hdigits.2 ']' (.inl (by decide))
    have hbase := (ihv hdigits.1).operand (.inl (by decide : '[' ∈ Assignment.terminators))
    rw [parts]
    refine Part.fits_append.2 ⟨hbase, cut_bracket (by simp) _, Part.fits_append.2 ⟨hindex, ?_⟩⟩
    exact ⟨cut_bracket (by simp) _, trivial⟩
  | @call ref f args hf hargs ih =>
    intro hdigits
    exact isCut_callOf ref hf fun c hc => ih c hc (isDisplayable_of_mem_callOf hdigits c hc)
  | @unary ref s k c hs hc ih =>
    intro hdigits next hnext
    have hcut := ih (isDisplayable_of_mem_opOf hdigits c (mem_singleton_self c))
    rw [parts, operatorPart_eq (mem_operators_of_signs hs)]
    exact ⟨cut_operator (mem_operators_of_signs hs),
      hcut.operand (.inl (hnext.mem_terminators rfl))⟩
  | @binary ref s k a b hs ha hb iha ihb =>
    intro hdigits
    have hdigits := isDisplayable_of_mem_opOf hdigits
    rw [forall_mem_cons, forall_mem_singleton] at hdigits
    exact isCut_opOf ref (mem_operators_of_relations hs)
      (by simpa using ⟨iha hdigits.1, ihb hdigits.2⟩)
  | @connected ref s k c d cs hs hcs ih =>
    intro hdigits
    have hdigits := isDisplayable_of_mem_opOf hdigits
    exact isCut_opOf ref (mem_operators_of_connectives hs) fun x hx => ih x hx (hdigits x hx)

/-! ## Brackets -/

/-- Whether tokens close the brackets that they open, if so many brackets more can be open. -/
def Closes (ks : List TokenKind) (depth : Nat) : Prop :=
  ∀ brackets : List Symbol, brackets.length + depth ≤ Source.maxBrackets →
    ks.foldlM Source.bracketsAfter brackets = some brackets

namespace Closes

variable {ks ls : List TokenKind} {m n : Nat}

theorem mono (h : Closes ks m) (hmn : m ≤ n) : Closes ks n := fun brackets hroom =>
  h brackets (by omega)

theorem append (hks : Closes ks n) (hls : Closes ls n) : Closes (ks ++ ls) n := by
  intro brackets hroom
  rw [foldlM_append, hks brackets hroom]
  exact hls brackets hroom

theorem cons {k : TokenKind} (hk : ∀ brackets, Source.bracketsAfter brackets k = some brackets)
    (h : Closes ks n) : Closes (k :: ks) n := by
  intro brackets hroom
  rw [foldlM_cons, hk brackets]
  exact h brackets hroom

theorem nil (n : Nat) : Closes [] n := fun _ _ => rfl

theorem between {s t : Symbol} (hs : s.closing? = some t) (ht : t.closing? = none)
    (hclosing : t.isClosing = true)
    (h : Closes ks n) : Closes (.symbol s :: (ks ++ [.symbol t])) (n + 1) := by
  intro brackets hroom
  have hopen : Source.bracketsAfter brackets (.symbol s) = some (t :: brackets) := by
    simp only [Source.bracketsAfter, hs]
    exact if_pos (by omega)
  have hclose : Source.bracketsAfter (t :: brackets) (.symbol t) = some brackets := by
    simp [Source.bracketsAfter, ht, hclosing]
  have hinside := h (t :: brackets) (by rw [length_cons]; omega)
  rw [foldlM_cons, hopen, Option.bind_eq_bind, Option.bind_some, foldlM_append, hinside]
  simp [hclose]

end Closes

theorem kinds_mark (t : String) (s : Symbol) (ps : List Part) :
    Part.kinds (mark t s :: ps) = .symbol s :: Part.kinds ps := rfl

theorem kinds_laterArguments (cs : List Code) : Part.kinds (laterArguments cs) =
    cs.flatMap fun c => .symbol .comma :: Part.kinds c.parts := by
  induction cs with
  | nil => rfl
  | cons c cs ih => simp [laterArguments, kinds_mark, ih]

theorem kinds_laterOperands (hs : (s, k) ∈ operators) (cs : List Code) :
    Part.kinds (laterOperands s cs) = cs.flatMap fun c => k :: Part.kinds c.operandParts := by
  induction cs with
  | nil => rfl
  | cons c cs ih => simp [laterOperands, operatorPart_eq hs, operandParts, ih]

theorem closes_operand (h : Closes (Part.kinds c.parts) c.bracketDepth)
    (hn : (if c.isOp then c.bracketDepth + 1 else c.bracketDepth) ≤ n) :
    Closes (Part.kinds c.operandParts) n := by
  rw [operandParts, enclosed]
  by_cases hop : c.isOp = true
  · rw [if_pos hop] at hn ⊢
    rw [kinds_mark, Part.kinds_append]
    exact (Closes.between rfl rfl rfl h).mono hn
  · rw [if_neg hop] at hn ⊢
    exact h.mono hn

theorem bracketsAfter_operator (hs : (s, k) ∈ operators)
    (brackets : List Symbol) : Source.bracketsAfter brackets k = some brackets := by
  refine forall_operators (P := fun _ k => Source.bracketsAfter brackets k = some brackets) ?_ hs
  repeat' apply And.intro
  all_goals rfl

theorem closes_laterArguments (h : ∀ c ∈ cs, Closes (Part.kinds c.parts) c.bracketDepth)
    (hn : argumentsDepth cs ≤ n) : Closes (Part.kinds (laterArguments cs)) n := by
  induction cs with
  | nil => exact .nil n
  | cons c cs ih =>
    rw [forall_mem_cons] at h
    rw [argumentsDepth] at hn
    rw [laterArguments, kinds_mark, Part.kinds_blank, Part.kinds_append]
    exact .cons (fun _ => rfl) (.append (h.1.mono (by omega)) (ih h.2 (by omega)))

theorem closes_laterOperands (hs : (s, k) ∈ operators)
    (h : ∀ c ∈ cs, Closes (Part.kinds c.parts) c.bracketDepth) (hn : operandsDepth cs ≤ n) :
    Closes (Part.kinds (laterOperands s cs)) n := by
  induction cs with
  | nil => exact .nil n
  | cons c cs ih =>
    rw [forall_mem_cons] at h
    rw [operandsDepth, Nat.max_le] at hn
    rw [laterOperands, operatorPart_eq hs, Part.kinds_blank, Part.kinds_token, Part.kinds_blank,
      Part.kinds_append]
    exact .cons (bracketsAfter_operator hs) (.append (closes_operand h.1 hn.1) (ih h.2 hn.2))

theorem closes_opOf (ref : Option Origin) (hs : (s, k) ∈ operators)
    (h : ∀ x ∈ c :: d :: cs, Closes (Part.kinds x.parts) x.bracketDepth) :
    Closes (Part.kinds (parts (.opOf ref s (c :: d :: cs))))
    (bracketDepth (.opOf ref s (c :: d :: cs))) := by
  rw [forall_mem_cons] at h
  rw [parts_opOf, bracketDepth, operandsDepth, Part.kinds_append]
  exact .append (closes_operand h.1 (Nat.le_max_left ..))
    (closes_laterOperands hs h.2 (Nat.le_max_right ..))

/-- The text of an expression closes the brackets that it opens. -/
theorem Plain.closes (h : Plain c) : Closes (Part.kinds c.parts) c.bracketDepth := by
  induction h with
  | int ref n => exact .cons (fun _ => rfl) (.nil _)
  | bool ref b => exact .cons (fun _ => rfl) (.nil _)
  | name ref hid => exact .cons (fun _ => rfl) (.nil _)
  | @attr ref v a hv hint ha ih =>
    rw [parts, bracketDepth, Part.kinds_append]
    exact .append (closes_operand ih (Nat.le_refl _))
      (.cons (fun _ => rfl) (.cons (fun _ => rfl) (.nil _)))
  | @item ref v i hv hi ihv ihi =>
    rw [parts, bracketDepth, Part.kinds_append, kinds_mark, Part.kinds_append]
    exact .append (closes_operand ihv (Nat.le_max_left ..))
      ((Closes.between rfl rfl rfl ihi).mono (Nat.le_max_right ..))
  | @call ref f args hf hargs ih =>
    cases args with
    | nil =>
      rw [parts]
      exact .cons (fun _ => rfl) (.between rfl rfl rfl (.nil 0))
    | cons c cs =>
      rw [forall_mem_cons] at ih
      rw [parts, bracketDepth, argumentsDepth, Part.kinds_token, kinds_mark, Part.kinds_append,
        Part.kinds_append]
      refine .cons (fun _ => rfl)
        (.between rfl rfl rfl (.append (ih.1.mono (Nat.le_max_left ..)) ?_))
      exact closes_laterArguments ih.2 (Nat.le_max_right ..)
  | @unary ref s k c hs hc ih =>
    have hs := mem_operators_of_signs hs
    rw [parts, operatorPart_eq hs, bracketDepth, operandsDepth, operandsDepth, Part.kinds_token,
      Part.kinds_blank]
    exact .cons (bracketsAfter_operator hs) (closes_operand ih (Nat.le_max_left ..))
  | @binary ref s k a b hs ha hb iha ihb =>
    exact closes_opOf ref (mem_operators_of_relations hs) (by simpa using ⟨iha, ihb⟩)
  | @connected ref s k c d cs hs hcs ih =>
    exact closes_opOf ref (mem_operators_of_connectives hs) ih

end DataDiagram.Code
