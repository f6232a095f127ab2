import DataDiagram.Proofs.Source.Positions
/-!
# Positions of statements

Every statement of a source text, and every expression in it, stands at one of the places of the
text.
-/

namespace DataDiagram.Source

open List

open Reader (Reads)

variable {k : Places} {S : Position → Prop}

/-! ## Simple statements -/

/-- A statement that stands at some places, with everything in it. -/
structure Stmt.Within (S : Position → Prop) (s : Stmt) : Prop where
  placed : s.Placed fun q => ∃ p ∈ q, p.Within S
  written : s.collect Static.unwritableConstant = []

/-- Readers of blocks that keep to some places. -/
structure Blocks.Within (k : Places) (b : Blocks) : Prop where
  exprs : b.exprs.Within k
  block : Reads k b.block fun ss => ∀ s ∈ ss, s.Within k
  orelse : Reads k b.orelse fun ss => ∀ s ∈ ss, s.Within k

namespace Stmt

variable {n : Nested} {b : Blocks} {start : Position} {s : Stmt} {isAsync : Bool}

theorem within_of (hmarks : ∀ p ∈ s.marks, p.Within S) (hexprs : ∀ e ∈ s.exprs, e.Within S)
    (hchildren : ∀ t ∈ s.children, t.Within S) : s.Within S := by
  refine ⟨.intro (fun p hp => ⟨p, rfl, hmarks p hp⟩) (fun e he => (hexprs e he).placed)
    fun t ht => (hchildren t ht).placed, eq_nil_iff_forall_not_mem.2 fun kind hkind => ?_⟩
  rcases mem_collect.1 hkind with ⟨e, he, hkind⟩ | ⟨t, ht, hkind⟩
  · rw [(hexprs e he).written] at hkind
    exact nomatch hkind
  · rw [(hchildren t ht).written] at hkind
    exact nomatch hkind

/-- A statement whose parts have no marks and no statements of their own. -/
theorem within_plain (hpos : s.pos.Within S) (hmarks : s.marks = [s.pos])
    (hexprs : ∀ e ∈ s.exprs, e.Within S) (hchildren : s.children = []) : s.Within S :=
  within_of (by simpa [hmarks] using hpos) hexprs (by simp [hchildren])

variable {e : Expr} {name : Reader String}

theorem within_expr (hstart : start.Within S) (he : e.Within S) : (expr start e).Within S :=
  within_plain hstart rfl (by simpa [exprs] using he) rfl

theorem within_other {kind : OtherStmt} {parts : List Stmt} (hstart : start.Within S)
    (hparts : ∀ s ∈ parts, s.Within S) : (other start kind parts).Within S :=
  within_of (by simpa [marks, pos] using hstart) nofun hparts

theorem reads_starExpressions (hn : n.Within k) : Reads k (starExpressions n) (Expr.Within k) :=
  Expr.reads_tupled (Expr.reads_starExpression hn)

theorem reads_assigned (hn : n.Within k) : Reads k (assigned n) (Expr.Within k) :=
  .skip fun _ => .ite (fun _ => Expr.reads_yieldExpression hn) fun _ =>
    reads_starExpressions hn

theorem reads_assignments (hn : n.Within k) (fuel : Nat) (he : e.Within k) :
    Reads k (assignments n fuel e) fun a => (∀ t ∈ a.1, t.Within k) ∧ a.2.Within k := by
  induction fuel generalizing e with
  | zero => exact .fail
  | succ fuel ih =>
    refine .skip fun _ => .ite (fun _ => ?_) fun _ => .pure ⟨nofun, he⟩
    split
    · exact .fail
    · rename_i t ht
      have ht := (Expr.within_asTarget? .store).1 e he t ht
      refine .bind (reads_assigned hn) fun d hd => .bind (ih hd) fun a ha => .pure ?_
      exact ⟨forall_mem_cons.2 ⟨ht, ha.1⟩, ha.2⟩

theorem reads_parenthesisedTarget (hn : n.Within k) :
    Reads k (parenthesisedTarget n) (Expr.Within k) := by
  refine .skip fun _ => .bind hn.expression fun e he => .skip fun _ => ?_
  split
  · exact .pure (Expr.within_asSingleTarget? he ‹_›)
  · exact .fail

theorem reads_declaration (hn : n.Within k) (hstart : start.Within k) {target : Expr}
    (htarget : target.Within k) {simple : Bool} :
    Reads k (declaration n start target simple) (Within k) := by
  refine .skip fun _ => .bind hn.expression fun type htype => ?_
  refine .bind (.optionalAfter (reads_assigned hn)) fun value hvalue => .pure ?_
  exact within_plain hstart rfl (by simpa [exprs] using ⟨htarget, htype, hvalue⟩) rfl

theorem reads_assignment (hn : n.Within k) : Reads k (assignment n) (Within k) := by
  refine .bind .here fun start hstart => .skip fun _ => .ite (fun _ => .skip fun _ => ?_) fun _ =>
    ?_
  · refine .ite (fun _ => ?_) fun _ => .bind (reads_assigned hn) fun e he => ?_
    · exact .bind (reads_parenthesisedTarget hn) fun t ht => reads_declaration hn hstart ht
    split
    · exact reads_declaration hn hstart (Expr.within_asSingleTarget? he ‹_›)
    · exact .fail
  refine .bind (reads_assigned hn) fun e he => .skip fun _ => ?_
  split
  · refine .skip fun _ => ?_
    split
    · rename_i t ht
      have ht := Expr.within_asSingleTarget? he ht
      refine .bind (reads_assigned hn) fun value hvalue => .pure ?_
      exact within_plain hstart rfl (by simpa [exprs] using ⟨ht, hvalue⟩) rfl
    · exact .fail
  · refine .skip fun _ => .ite (fun _ => .skip fun fuel => ?_) fun _ =>
      .pure (within_expr hstart he)
    refine .bind (reads_assignments hn fuel he) fun a ha => .pure ?_
    exact within_plain hstart rfl (forall_mem_append.2 ⟨ha.1, by simpa using ha.2⟩) rfl

/-! ### Imports -/

theorem reads_importedName :
    Reads k (importedName name) fun a => a.pos.Within k :=
  .bind .here fun _ hstart => .skip fun _ => .skip fun _ => .pure hstart

theorem reads_importedNames :
    Reads k (importedNames name) fun names => ∀ a ∈ names, a.pos.Within k :=
  .bind (.commaSeparated reads_importedName) fun _ hnames => .pure hnames

theorem within_importsFrom {module : Option String} {names : List Alias} {level : Nat}
    (hstart : start.Within S) (hnames : ∀ a ∈ names, a.pos.Within S) :
    (importsFrom start module names level).Within S :=
  within_of (forall_mem_cons.2 ⟨hstart, forall_mem_map.2 hnames⟩) nofun nofun

theorem reads_importStatement : Reads k importStatement (Within k) := by
  refine .bind .here fun start hstart => .skip fun _ => .ite (fun _ => ?_) fun _ => ?_
  · refine .bind reads_importedNames fun names hnames => .pure ?_
    exact within_of (forall_mem_cons.2 ⟨hstart, forall_mem_map.2 hnames⟩) nofun nofun
  refine .skip fun _ => .skip fun level => .skip fun _ => ?_
  dsimp only
  refine .ite (fun _ => .ite (fun _ => .skip ?_) fun _ => .skip ?_) fun _ => .skip ?_
  -- Whatever the module is, the same follows.
  all_goals
    intro module
    refine .skip fun _ => .bind .here fun place hplace => .skip fun _ => ?_
    refine .ite (fun _ => ?_) fun _ => .skip fun _ => .ite (fun _ => ?_) fun _ => ?_
    · exact .pure (within_importsFrom hstart (by simpa using hplace))
    · refine .bind (.commaSeparated reads_importedName) fun names hnames => ?_
      exact .skip fun _ => .pure (within_importsFrom hstart hnames)
    · exact .bind reads_importedNames fun names hnames =>
        .pure (within_importsFrom hstart hnames)

/-! ### Lines -/

theorem reads_deleted (hn : n.Within k) : Reads k (deleted n) (Within k) := by
  refine .bind .here fun start hstart => .bind hn.bitwiseOr fun e he => ?_
  split
  · exact .pure (within_expr hstart ((Expr.within_asTarget? .delete).1 e he _ ‹_›))
  · exact .fail

theorem reads_part {reader : Reader Expr} (hreader : Reads k reader (Expr.Within k)) :
    Reads k (part reader) (Within k) :=
  .bind .here fun _ hstart => .bind hreader fun _ he => .pure (within_expr hstart he)

theorem reads_simple (hn : n.Within k) : Reads k (simple n) (Within k) := by
  refine .bind .here fun start hstart => .skip fun next => ?_
  split
  · refine .skip fun _ =>
      .bind (.optionalAfter (reads_starExpressions hn)) fun value hvalue => ?_
    exact .pure (within_plain hstart rfl (by simpa [exprs] using hvalue) rfl)
  · exact reads_importStatement
  · exact reads_importStatement
  · refine .skip fun _ => .skip fun _ => .ite (fun _ => ?_) fun _ => ?_
    · refine .bind (reads_part hn.expression) fun raised hraised => ?_
      refine .bind (.optionalAfter (reads_part hn.expression)) fun cause hcause => ?_
      exact .pure (within_other hstart (by simpa using ⟨hraised, hcause⟩))
    · exact .pure (within_other hstart (forall_mem_nil _))
  · exact .skip fun _ => .pure (within_plain hstart rfl (forall_mem_nil _) rfl)
  · refine .skip fun _ => .bind (.commaSeparated (reads_deleted hn)) ?_
    exact fun targets htargets => .pure (within_other hstart htargets)
  · refine .skip fun _ => .bind (reads_part hn.expression) fun test htest => ?_
    refine .bind (.optionalAfter (reads_part hn.expression)) fun message hmessage => ?_
    exact .pure (within_other hstart (by simpa using ⟨htest, hmessage⟩))
  · exact .skip fun _ => .pure (within_other hstart (forall_mem_nil _))
  · exact .skip fun _ => .pure (within_other hstart (forall_mem_nil _))
  · refine .skip fun _ => .skip fun names => ?_
    exact .pure (within_plain hstart rfl (forall_mem_nil _) rfl)
  · refine .skip fun _ => .skip fun names => ?_
    exact .pure (within_other hstart (forall_mem_nil _))
  · exact reads_assignment hn

theorem reads_simpleLine (hn : n.Within k) (fuel : Nat) :
    Reads k (simpleLine n fuel) fun ss => ∀ s ∈ ss, s.Within k := by
  induction fuel with
  | zero => exact .fail
  | succ fuel ih =>
    refine .bind (reads_simple hn) fun first hfirst => .skip fun _ => ?_
    have hsingle : ∀ s ∈ [first], s.Within k := forall_mem_singleton.2 hfirst
    refine .ite (fun _ => .skip fun next => ?_) fun _ => .skip fun _ => .pure hsingle
    split
    · exact .skip fun _ => .pure hsingle
    · exact .bind ih fun more hmore => .pure (forall_mem_cons.2 ⟨hfirst, hmore⟩)

/-! ## Compound statements -/

theorem reads_body (hb : b.Within k) : Reads k (body b) fun ss => ∀ s ∈ ss, s.Within k :=
  .skip fun _ => hb.block

theorem reads_elseBody (hb : b.Within k) : Reads k (elseBody b) fun ss => ∀ s ∈ ss, s.Within k :=
  .skip fun _ => .ite (fun _ => reads_body hb) fun _ => .pure nofun

theorem within_params {ps : Params} (hps : ps.Within S) :
    (∀ p ∈ ps.all.map Param.pos, p.Within S) ∧ ∀ e ∈ ps.exprs, e.Within S := by
  refine ⟨forall_mem_map.2 fun p hp => (hps.all p hp).pos, fun e he => ?_⟩
  simp only [Params.exprs, mem_append, mem_filterMap, id_eq] at he
  obtain (⟨p, hp, hpe⟩ | ⟨d, hd, hde⟩) | he := he
  · exact (hps.all p hp).type e hpe
  · exact hps.keywordDefaults d hd e hde
  · exact hps.defaults e he

theorem paramParts_subset (ps : Params) : paramParts ps ⊆ ps.exprs := by
  intro e he
  simp only [paramParts, Params.exprs, Params.all, mem_append, mem_filterMap, Option.mem_toList,
    Option.bind_eq_some_iff] at he ⊢
  grind

theorem reads_functionStatement (hb : b.Within k) (hstart : start.Within k)
    {decorators : List Expr} (hdecorators : ∀ e ∈ decorators, e.Within k) :
    Reads k (functionStatement b start isAsync decorators) (Within k) := by
  have hn := hb.exprs
  refine .skip fun _ => .skip fun name => .skip fun _ => ?_
  refine .bind (Expr.reads_params hn (.optionalAfter hn.expression)
    (.optionalAfter (Expr.reads_starExpression hn))) fun ps hps => ?_
  refine .skip fun _ => .bind (.optionalAfter hn.expression) fun returns hreturns => ?_
  refine .bind (reads_body hb) fun stmts hstmts => ?_
  dsimp only
  refine .ite (fun _ => .pure (within_other hstart ?_)) fun _ => .pure ?_
  · have hwrap : ∀ es : List Expr, (∀ e ∈ es, e.Within k) → ∀ s ∈ es.map (expr start), s.Within k :=
      fun es hes => forall_mem_map.2 fun e he => within_expr hstart (hes e he)
    simp only [forall_mem_append]
    exact ⟨⟨⟨hwrap _ fun e he => (within_params hps).2 e (paramParts_subset ps he), hstmts⟩,
      hwrap _ hdecorators⟩,
      hwrap _ (by simpa using hreturns)⟩
  · obtain ⟨hmarks, hexprs⟩ := within_params hps
    refine within_of (forall_mem_cons.2 ⟨hstart, hmarks⟩) ?_ hstmts
    simp only [exprs, forall_mem_append]
    exact ⟨⟨hexprs, hdecorators⟩, by simpa using hreturns⟩

def classKeyword? : Expr.Argument → Option ClassKeyword
  | .keyword p id value => some ⟨p, id, value⟩
  | _ => none

theorem reads_classStatement (hb : b.Within k) {decorators : List Expr}
    (hdecorators : ∀ e ∈ decorators, e.Within k) :
    Reads k (classStatement b decorators) (Within k) := by
  refine .bind .here fun start hstart => .skip fun _ => .skip fun name => ?_
  refine .bind (.optionalAfter (Expr.reads_arguments hb.exprs)) fun args? hargs => ?_
  have hargs : ∀ a ∈ args?.getD [], a.Within k := by
    cases args? with
    | none => exact nofun
    | some args => exact hargs args rfl
  have hkeyword : ∀ q ∈ (args?.getD []).filterMap classKeyword?,
      q.pos.Within k ∧ q.value.Within k := by
    intro q hq
    obtain ⟨a, ha, haq⟩ := mem_filterMap.1 hq
    unfold classKeyword? at haq
    split at haq
    · cases haq
      exact ⟨(hargs _ ha).pos _ _ _ rfl, (hargs _ ha).value⟩
    · cases haq
  refine .bind (reads_body hb) fun stmts hstmts => .pure (within_of ?_ ?_ hstmts)
  · exact forall_mem_cons.2 ⟨hstart, forall_mem_map.2 fun q hq => (hkeyword q hq).1⟩
  · simp only [exprs, forall_mem_append]
    exact ⟨⟨Expr.within_positionals hargs, forall_mem_map.2 fun q hq => (hkeyword q hq).2⟩,
      hdecorators⟩

theorem reads_loopStatement (hb : b.Within k) (hstart : start.Within k) :
    Reads k (loopStatement b start isAsync) (Within k) := by
  refine .skip fun _ => .bind .here fun place hplace => ?_
  refine .bind (Expr.reads_starTargets hb.exprs) fun target htarget => .skip fun _ => ?_
  refine .bind (reads_starExpressions hb.exprs) fun iter hiter =>
    .bind (reads_body hb) fun stmts hstmts => ?_
  refine .bind (reads_elseBody hb) fun orelse horelse => .ite (fun _ => .pure ?_) fun _ => .pure ?_
  · refine within_other hstart ?_
    simp only [forall_mem_append, forall_mem_cons]
    exact ⟨⟨within_expr hplace htarget, within_expr hplace hiter, hstmts⟩, horelse⟩
  · exact within_of (by simpa [marks, pos] using hstart) (by simpa [exprs] using ⟨htarget, hiter⟩)
      (forall_mem_append.2 ⟨hstmts, horelse⟩)

theorem reads_withItem (hb : b.Within k) : Reads k (withItem b) fun ss => ∀ s ∈ ss, s.Within k := by
  refine .bind .here fun start hstart => .bind hb.exprs.expression fun value hvalue => ?_
  have hvalue := within_expr hstart hvalue
  refine .skip fun _ => .ite (fun _ => ?_) fun _ => .pure (by simpa using hvalue)
  refine .bind (Expr.reads_starTarget hb.exprs) fun target htarget => ?_
  refine .skip fun _ => .skip fun _ => .skip fun _ => ?_
  exact .ite (fun _ => .pure (by simpa using ⟨hvalue, within_expr hstart htarget⟩)) fun _ => .fail

theorem reads_withStatement (hb : b.Within k) (hstart : start.Within k) :
    Reads k (withStatement b start isAsync) (Within k) := by
  refine .skip fun _ => .bind (.either (P := fun ss => ∀ s ∈ ss, s.Within k) ?_ ?_)
    fun items hitems => ?_
  · refine .skip fun _ => .bind (.commaSeparated (reads_withItem hb)) fun items hitems => ?_
    refine .skip fun _ => .skip fun _ => .ite (fun _ => ?_) fun _ => .fail
    exact .pure (forall_mem_flatten.2 hitems)
  · exact .bind (.commaSeparated (reads_withItem hb)) fun items hitems =>
      .pure (forall_mem_flatten.2 hitems)
  · refine .bind (reads_body hb) fun stmts hstmts => .pure (within_other hstart ?_)
    exact forall_mem_append.2 ⟨hitems, hstmts⟩

theorem reads_handler (hb : b.Within k) :
    Reads k (handler b) fun a => ∀ h ∈ a, ∀ s ∈ h.2, s.Within k := by
  refine .skip fun _ => .ite (fun _ => ?_) fun _ => .pure nofun
  refine .skip fun group => .skip fun _ => .ite (fun _ => ?_) fun _ => ?_
  · exact .ite (fun _ => .fail) fun _ => .bind (reads_body hb) fun ss hss =>
      .pure (by simpa using hss)
  · refine .bind (reads_part hb.exprs.expression) fun caught hcaught => .skip fun _ => ?_
    exact .bind (reads_body hb) fun ss hss => .pure (by simpa using ⟨hcaught, hss⟩)

theorem reads_tryStatement (hb : b.Within k) : Reads k (tryStatement b) (Within k) := by
  refine .bind .here fun start hstart => .skip fun _ => ?_
  refine .bind (reads_body hb) fun stmts hstmts =>
    .bind (.many (reads_handler hb)) fun handlers hhandlers => ?_
  refine .bind (.ite (fun _ => reads_elseBody hb) fun _ => .pure nofun) fun orelse horelse => ?_
  refine .bind (.optionalAfter (reads_body hb)) fun final hfinal => ?_
  have hparts : ∀ s ∈ stmts ++ (handlers.map Prod.snd).flatten ++ orelse ++ final.getD [],
      s.Within k := by
    simp only [forall_mem_append, forall_mem_flatten, forall_mem_map]
    refine ⟨⟨⟨hstmts, hhandlers⟩, horelse⟩, ?_⟩
    cases final with
    | none => exact nofun
    | some ss => exact hfinal ss rfl
  refine .ite (fun _ => .fail) fun _ => .ite (fun _ => .pure (within_other hstart hparts)) fun _ =>
    ?_
  exact .ite (fun _ => .fail) fun _ => .pure (within_other hstart hparts)

theorem within_cond {test : Expr} {body orelse : List Stmt} (hstart : start.Within S)
    (htest : test.Within S) (hbody : ∀ s ∈ body, s.Within S) (horelse : ∀ s ∈ orelse, s.Within S) :
    (cond start test body orelse).Within S :=
  within_of (by simpa [marks, pos] using hstart) (by simpa [exprs] using htest)
    (forall_mem_append.2 ⟨hbody, horelse⟩)

theorem reads_branches (hb : b.Within k) : Reads k (branches b) fun ss => ∀ s ∈ ss, s.Within k := by
  refine .skip fun _ => .ite (fun _ => ?_) fun _ => reads_elseBody hb
  refine .bind .here fun start hstart => .skip fun _ => ?_
  refine .bind (Expr.reads_namedExpression hb.exprs) fun test htest => ?_
  refine .bind (reads_body hb) fun stmts hstmts => .bind hb.orelse fun orelse horelse => .pure ?_
  exact forall_mem_singleton.2 (within_cond hstart htest hstmts horelse)

theorem reads_choice (hb : b.Within k) : Reads k (choice b) (Within k) := by
  refine .bind .here fun start hstart => .skip fun _ => ?_
  refine .bind (Expr.reads_namedExpression hb.exprs) fun test htest => ?_
  refine .bind (reads_body hb) fun stmts hstmts => .skip fun next => ?_
  have hrest : ∀ orelse : List Stmt, (∀ s ∈ orelse, s.Within k) →
      Reads k (pure (cond start test stmts orelse)) (Within k) :=
    fun orelse horelse => .pure (within_cond hstart htest hstmts horelse)
  dsimp only
  split
  · exact .bind hb.orelse hrest
  · exact .bind hb.orelse hrest
  · exact hrest [] nofun

theorem reads_whileStatement (hb : b.Within k) : Reads k (whileStatement b) (Within k) := by
  refine .bind .here fun start hstart => .skip fun _ => ?_
  refine .bind (reads_part (Expr.reads_namedExpression hb.exprs)) fun test htest => ?_
  refine .bind (reads_body hb) fun stmts hstmts => .bind (reads_elseBody hb) fun orelse horelse =>
    ?_
  refine .pure (within_other hstart ?_)
  exact forall_mem_append.2 ⟨forall_mem_cons.2 ⟨htest, hstmts⟩, horelse⟩

theorem reads_caseBlock (hb : b.Within k) :
    Reads k (caseBlock b) fun a => ∀ ss ∈ a, ∀ s ∈ ss, s.Within k := by
  refine .skip fun _ => .ite (fun _ => ?_) fun _ => .pure nofun
  refine .skip fun _ => .skip fun _ => ?_
  refine .bind (.optionalAfter (reads_part (Expr.reads_namedExpression hb.exprs)))
    fun guard hguard => .bind (reads_body hb) fun stmts hstmts => .pure ?_
  rintro ss ⟨⟩
  exact forall_mem_append.2 ⟨by simpa using hguard, hstmts⟩

theorem reads_matchStatement (hb : b.Within k) : Reads k (matchStatement b) (Within k) := by
  refine .bind .here fun start hstart => .skip fun _ => .ite (fun _ => ?_) fun _ => .fail
  refine .skip fun _ =>
    .bind (reads_part (Expr.reads_tupled (Expr.reads_starNamed hb.exprs))) fun subject hsubject =>
      ?_
  split
  · exact .fail
  · refine .skip fun _ => .skip fun _ => .skip fun _ => ?_
    refine .bind (.many (reads_caseBlock hb)) fun cases hcases => .skip fun _ => ?_
    refine .ite (fun _ => .fail) fun _ => .pure (within_other hstart ?_)
    exact forall_mem_cons.2 ⟨hsubject, forall_mem_flatten.2 hcases⟩

theorem reads_decorators (hn : n.Within k) : Reads k (decorators n) fun es =>
      ∀ e ∈ es, e.Within k := by
  refine .many (.skip fun _ => .ite (fun _ => ?_) fun _ => .pure nofun)
  exact .bind (Expr.reads_namedExpression hn) fun e he => .skip fun _ =>
    .pure (by simpa using he)

theorem reads_statement (hb : b.Within k) : Reads k (statement b) fun ss =>
      ∀ s ∈ ss, s.Within k := by
  have hone : ∀ {reader : Reader Stmt}, Reads k reader (Within k) →
      Reads k ((fun s => [s]) <$> reader) fun ss => ∀ s ∈ ss, s.Within k :=
    fun hreader => .map (hreader.imp fun s hs => forall_mem_singleton.2 hs)
  have hline : Reads k (do simpleLine b.exprs (← Reader.remaining)) fun ss =>
      ∀ s ∈ ss, s.Within k :=
    .skip fun fuel => reads_simpleLine hb.exprs fuel
  refine .bind .here fun start hstart => .skip fun next => ?_
  split
  · exact hone (reads_choice hb)
  · exact hone (reads_whileStatement hb)
  · exact hone (reads_loopStatement hb hstart)
  · exact hone (reads_withStatement hb hstart)
  · exact hone (reads_tryStatement hb)
  · exact hone (reads_functionStatement hb hstart nofun)
  · exact hone (reads_classStatement hb nofun)
  · refine .skip fun _ => .skip fun next => ?_
    split
    · exact hone (reads_loopStatement hb hstart)
    · exact hone (reads_withStatement hb hstart)
    · exact hone (reads_functionStatement hb hstart nofun)
  · refine .bind (reads_decorators hb.exprs) fun ds hds => .bind .here fun place hplace => ?_
    refine .skip fun next => ?_
    split
    · exact hone (reads_classStatement hb hds)
    · exact .skip fun _ => hone (reads_functionStatement hb hplace hds)
    · exact hone (reads_functionStatement hb hplace hds)
  · exact .either (hone (reads_matchStatement hb)) hline
  · exact hline

theorem reads_statements (hb : b.Within k) : Reads k (statements b) fun ss =>
      ∀ s ∈ ss, s.Within k := by
  refine .bind (.many (P := fun ss => ∀ s ∈ ss, s.Within k) ?_) fun lines hlines => ?_
  · refine .skip fun next => ?_
    split
    · exact .pure nofun
    · exact .pure nofun
    · exact .bind (reads_statement hb) fun ss hss => .pure (by simpa using hss)
  · exact .pure (forall_mem_flatten.2 hlines)

theorem reads_block (hb : b.Within k) : Reads k (block b) fun ss => ∀ s ∈ ss, s.Within k := by
  refine .skip fun next => ?_
  split
  · refine .skip fun _ => .skip fun _ => .bind (reads_statements hb) fun ss hss => ?_
    exact .skip fun _ => .ite (fun _ => .fail) fun _ => .pure hss
  · exact .skip fun fuel => reads_simpleLine hb.exprs fuel

end Stmt

theorem Blocks.within_atDepth {exprs : Nested} (hexprs : exprs.Within k) (patterns depth : Nat) :
    (Blocks.atDepth exprs patterns depth).Within k := by
  induction depth with
  | zero => exact ⟨hexprs, .fail, .fail⟩
  | succ depth ih => exact ⟨hexprs, Stmt.reads_block ih, Stmt.reads_branches ih⟩

theorem within_read {text : List Char} {body : List Stmt} (h : read text = some body) :
    ∀ s ∈ body, s.Within (Places.of (normalLines text)) := by
  obtain ⟨ts, hts, h⟩ := Option.bind_eq_some_iff.1 h
  obtain ⟨⟨stmts, rest⟩, hread, h⟩ := Option.bind_eq_some_iff.1 h
  obtain ⟨-, h⟩ := Option.ite_none_right_eq_some.1 h
  cases h
  exact Stmt.reads_statements (k := Places.of (normalLines text))
    (Blocks.within_atDepth (Nested.within_atDepth _) _ _) ts _ rest (within_tokensFrom hts) hread

end DataDiagram.Source
