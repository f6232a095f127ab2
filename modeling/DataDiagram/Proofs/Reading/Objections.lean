import DataDiagram.Proofs.Source.Statements
import DataDiagram.Reading.Module
/-!
# What reading objects to

Every message with which a text is refused is about a node of its tree: a statement, an expression
in one, or another part that has a position.  Here it is said which messages a node can have.  In a
loop the nodes are those of expressions in which constants stand for the loop's variable.
-/

namespace DataDiagram

open List

open Source (Expr Stmt Params Param Alias ClassKeyword)

/-! ## Messages about nodes -/

namespace Source

namespace Expr

def isName : Expr → Bool
  | name .. => true
  | _ => false

theorem isName_eq_false {e : Expr} (h : ∀ p id u, e ≠ name p id u) : e.isName = false := by
  cases e with
  | name p id u => exact absurd rfl (h p id u)
  | _ => rfl

def isCall : Expr → Bool
  | call .. => true
  | _ => false

/-- What is said of an expression in code that the language has not, and of which node. -/
def refusal? : Expr → Option (Option Position × String)
  | constant p d => if d.int?.isSome then none else some (p, "unsupported value")
  | call _ f _ _ => if f.isName then none else some (f.pos?, "unsupported function")
  | name .. | unary .. | binary .. | bool .. | compare .. | field .. | subscript .. => none
  | e => some (e.pos?, "unsupported syntax")

/-- The kinds of what makes up an expression, is not in the language and has no place in the
text. -/
def unplaced : Expr → List String
  | unary _ .invert _ => ["Invert"]
  | binary _ op _ _ => if (Reading.binarySymbol? op).isSome then [] else [Reading.operatorKind op]
  | compare _ _ ops _ => ops.filterMap fun op =>
    match Reading.compareSymbol op with
    | .error kind => some kind
    | .ok _ => none
  | call _ _ _ keywords => if keywords.isEmpty then [] else ["list"]
  | _ => []

end Expr

namespace Stmt

/-- The kind of the operator of an updating assignment, if it is not in the language. -/
def unplacedUpdate : Stmt → List String
  | augment _ _ op _ =>
    if (Reading.augmentSymbol? op).isSome then [] else [Reading.operatorKind op]
  | _ => []

/-- The kinds of what makes up a statement, is not in the language and has no place in the text. -/
def unplaced (s : Stmt) : List String :=
  s.unplacedUpdate ++ s.exprs.flatMap (Expr.collect Expr.unplaced)

def isDeclare : Stmt → Bool
  | declare .. => true
  | _ => false

theorem exists_of_isDeclare {s : Stmt} (h : s.isDeclare = true) :
    ∃ p target type value simple, s = declare p target type value simple := by
  cases s with
  | declare p target type value simple => exact ⟨p, target, type, value, simple, rfl⟩
  | _ => cases h

def isDefinition : Stmt → Bool
  | function .. | cls .. => true
  | _ => false

/-- Whether a statement declares names. -/
def declares : Stmt → Bool
  | declare .. | assign .. | function .. | cls .. => true
  | _ => false

def isLoop : Stmt → Bool
  | loop .. => true
  | _ => false

/-- The variable of a loop. -/
def loopName : Stmt → List String
  | loop _ (.name _ id _) _ _ _ => [id]
  | _ => []

/-- The statements within a function. -/
def inside : Stmt → List Stmt
  | function _ _ _ body _ _ => nestedAll body
  | _ => []

/-- The statements within the functions of a text. -/
def functionBodies (body : List Stmt) : List Stmt := (nestedAll body).flatMap inside

/-- What is said of a statement as a whole. -/
inductive Fault : Stmt → String → Prop
  | bare {p : Position} {e : Expr} :
      e.isCall = false → Fault (expr p e) "unsupported bare expression"
  | targets {p : Position} {es : List Expr} {e : Expr} :
    es.length ≠ 1 → Fault (assign p es e) "unsupported multiple assignments"
  | otherwise {p : Position} {target iter : Expr} {body orelse : List Stmt} :
    orelse ≠ [] → Fault (loop p target iter body orelse) "unsupported 'else' in for loop"
  | inner {s : Stmt} :
    s.isDeclare = true ∨ s.isDefinition = true → Fault s "forbidden nested declaration"
  | foreign {s : Stmt} : s.declares = false → Fault s "unsupported syntax"
  | twice {s : Stmt} (line : Int) : s.declares = true → Fault s s!"already declared line {line}"
  | missing {s : Stmt} : s.isDeclare = true → Fault s "missing initial value"
  | late {s : Stmt} : s.isDeclare = true → Fault s "must come before statements"
  | lateGlobal {p : Position} {names : List String} :
    Fault (global p names) "must come before statements"
  | globalAfterLocal {p : Position} {names : List String} :
    Fault (global p names) "must come before local declarations"
  | globalArgument {p : Position} {names : List String} {n : String} :
    n ∈ names → Fault (global p names) s!"'{n}' declared as argument"
  | unknownGlobal {p : Position} {names : List String} {n : String} :
    n ∈ names → Fault (global p names) s!"undeclared variable {n}"
  | localArgument {p q : Position} {n : String} {u : Usage} {type : Expr} {value : Option Expr}
    {simple : Bool} : Fault (declare p (.name q n u) type value simple) s!"'{n}' is an argument"
  | localGlobal {p q : Position} {n : String} {u : Usage} {type : Expr} {value : Option Expr}
    {simple : Bool} : Fault (declare p (.name q n u) type value simple) s!"'{n}' is declared global"
  | noField {s : Stmt} : s.isDeclare = false → Fault s "expected field declaration"

/-- What is said of an expression of a statement, as it stands in the text. -/
inductive ExprFault : Stmt → Expr → String → Prop
  | declared {p : Position} {target type : Expr} {value : Option Expr} {simple : Bool} :
    target.isName = false →
      ExprFault (declare p target type value simple) target "not a variable declaration"
  | type {p : Position} {target type : Expr} {value : Option Expr} {simple : Bool} :
    (∀ q id u, type = .name q id u → id ≠ "int" ∧ id ≠ "bool") →
    ExprFault (declare p target type value simple) type "unsupported type"
  | base {p q : Position} {target base items : Expr} {u : Usage} {value : Option Expr}
      {simple : Bool} :
    base.isName = false →
      ExprFault (declare p target (.subscript q base items u) value simple) base "unsupported type"
  | items {p q : Position} {target base items : Expr} {u : Usage} {value : Option Expr}
      {simple : Bool} :
    items.isName = false →
      ExprFault (declare p target (.subscript q base items u) value simple) items
        "unsupported items type"
  | value {p : Position} {target type e : Expr} {simple : Bool} :
    ExprFault (declare p target type (some e) simple) e "cannot iterate over init value"
  | assigned {p : Position} {target e : Expr} : target.isName = false →
    ExprFault (assign p [target] e) target "unsupported variable declaration"
  | iterator {p : Position} {target iter : Expr} {body orelse : List Stmt} : target.isName = false →
    ExprFault (loop p target iter body orelse) target "unsupported iterator"
  | decorator {p : Position} {name : String} {params : Params} {body : List Stmt}
    {decorators : List Expr} {returns : Option Expr} {e : Expr} : e ∈ decorators →
      ExprFault (function p name params body decorators returns) e "unsupported function decorators"
  | default {p : Position} {name : String} {params : Params} {body : List Stmt}
    {decorators : List Expr} {returns : Option Expr} {e : Expr} : e ∈ params.defaults →
      ExprFault (function p name params body decorators returns) e "unsupported function arguments"
  | classDecorator {p : Position} {name : String} {bases : List Expr} {keywords : List ClassKeyword}
    {body : List Stmt} {decorators : List Expr} {e : Expr} : e ∈ decorators →
      ExprFault (cls p name bases keywords body decorators) e "unsupported decorator"
  | parent {p : Position} {name : String} {bases : List Expr} {keywords : List ClassKeyword}
    {body : List Stmt} {decorators : List Expr} {e : Expr} : e ∈ bases → e.isName = false →
      ExprFault (cls p name bases keywords body decorators) e "expected name"

/-- What is said of a part of a statement that is neither a statement nor an expression, and of a
variable of a loop that is written in it. -/
inductive MarkFault : Stmt → Position → String → Prop
  | argument {p : Position} {name : String} {params : Params} {body : List Stmt}
    {decorators : List Expr} {returns : Option Expr} {a : Param} : a ∈ params.all →
      MarkFault (function p name params body decorators returns) a.pos
        "unsupported function arguments"
  | keyword {p : Position} {name : String} {bases : List Expr} {keywords : List ClassKeyword}
    {body : List Stmt} {decorators : List Expr} {k : ClassKeyword} : k ∈ keywords →
      MarkFault (cls p name bases keywords body decorators) k.pos "unsupported syntax"
  | star {p : Position} {library : Option String} {names : List Alias} {level : Nat} {a : Alias} :
    a ∈ names → a.name = "*" →
      MarkFault (importsFrom p library names level) a.pos "unsupported '*'-import"
  | index {p q r : Position} {id : String} {u : Usage} {iter : Expr} {body orelse : List Stmt}
      {s : Stmt} :
    s ∈ body → r ∈ s.collect (Expr.writes id) →
      MarkFault (loop p (.name q id u) iter body orelse) r "cannot assign for-loop index"

end Stmt

end Source

/-! ## Evaluations -/

namespace Reading

variable {σ V : Type}

/-- A failure that is met when a value is gone through. -/
inductive Walk.Meets : Walk σ V → Failure → Prop
  | here {f : Failure} : Meets (.failed f) f
  | later {v : V} {s t : σ} {more : σ → Walk σ V} {f : Failure} :
    Meets (more t) f → Meets (.next v s more) f

/-- What a failure is outside of reading, unless reading makes a message of it. -/
def Failure.escape? : Failure → Option (ErrorKind × String)
  | assertion _ => none
  | exception kind message | exit kind message => some (kind, message)

variable (I : Evaluator σ V)

/-- An evaluation for a statement that is left with a failure. -/
inductive Leaves : Stmt → Failure → Prop
  | evaluate {s : Stmt} {e : Expr} {env vars : Names V} {m n : σ} {f : Failure} :
    e ∈ s.exprs → (I.evaluate env vars e).run m = (.left f, n) → Leaves s f
  | define {s : Stmt} {env : Names V} {name : String} {m n : σ} {f : Failure} :
    (I.define env s name).run m = (.left f, n) → Leaves s f
  | record {p : Position} {name : String} {bases : List Expr} {keywords : List ClassKeyword}
    {body : List Stmt} {decorators : List Expr} {v : V} {m n : σ} {f : Failure} :
    (I.record v).run m = (.error f, n) → Leaves (.cls p name bases keywords body decorators) f
  | truth {p : Position} {test : Expr} {body orelse : List Stmt} {v : V} {m n : σ} {f : Failure} :
    (I.truth v).run m = (.error f, n) → Leaves (.cond p test body orelse) f
  | walk {s : Stmt} {v : V} {m : σ} {f : Failure} : s.isLoop = true ∨ s.isDeclare = true →
    (I.walk v m).Meets f → Leaves s f

/-- What is said of a statement in a text with loops over some variables, and at which position.  In
a loop the position is missing for a constant that stands for a variable. -/
inductive Objection (loops : List String) : Stmt → Option Position → String → Prop
  | whole {s : Stmt} {message : String} : s.Fault message → Objection loops s (some s.pos) message
  | node {s : Stmt} {e : Expr} {message : String} :
    s.ExprFault e message → Objection loops s e.pos? message
  | mark {s : Stmt} {p : Position} {message : String} :
    s.MarkFault p message → Objection loops s (some p) message
  /-- An assignment to what is no place. -/
  | target {s : Stmt} {e : Expr} {vars : Names V} : e ∈ s.exprs → (∀ v ∈ vars, v.1 ∈ loops) →
    Objection loops s (e.bind (I.loopVars vars)).pos? "unsupported assignment target"
  /-- A node in the code of an expression. -/
  | part {s : Stmt} {e d : Expr} {vars : Names V} {q : Option Position} {message : String} :
    e ∈ s.exprs → (∀ v ∈ vars, v.1 ∈ loops) → d ∈ (e.bind (I.loopVars vars)).parts →
      d.refusal? = some (q, message) → Objection loops s q message
  /-- A node in a test that cannot be decided; what has no position there has that of what is around
  it. -/
  | test {p : Position} {test d : Expr} {body orelse : List Stmt} {vars : Names V}
    {q : Option Position} {message : String} : (∀ v ∈ vars, v.1 ∈ loops) →
      d ∈ ((test.bind (I.loopVars vars)).placed startPosition).parts →
      d.refusal? = some (q, message) → Objection loops (.cond p test body orelse) q message
  /-- An expression whose evaluation raises an exception. -/
  | raised {s : Stmt} {e : Expr} {env vars : Names V} {m n : σ} {text : String} :
    e ∈ s.exprs → (∀ v ∈ vars, v.1 ∈ loops) → (I.evaluate env vars e).run m = (.raised text, n) →
      Objection loops s (some (placeOf (e.bind (I.loopVars vars))))
        s!"not static expression ({text})"
  /-- A statement whose definition raises an exception. -/
  | undefined {s : Stmt} {env : Names V} {name : String} {m n : σ} {text : String} :
    (I.define env s name).run m = (.raised text, n) →
      Objection loops s (some s.pos) s!"not static expression ({text})"
  /-- A statement in which a condition does not hold that an evaluation states. -/
  | assertion {s : Stmt} {text : String} :
    Leaves I s (.assertion text) → Objection loops s (some s.pos) text

/-! ## Positions -/

variable {I} {loops : List String} {s : Stmt} {e d : Expr} {q : Option Position} {message : String}
  {S : Position → Prop}

theorem mem_exprs_of_exprFault (h : s.ExprFault e message) :
    ∃ d ∈ s.exprs, e ∈ d.parts := by
  have hself (e : Expr) : e ∈ e.parts := by
    rw [Expr.parts_eq]
    exact mem_cons_self
  have hpart {e d : Expr} (h : e ∈ d.children) : e ∈ d.parts := by
    rw [Expr.parts_eq]
    exact mem_cons_of_mem _ (mem_flatMap.2 ⟨e, h, hself e⟩)
  cases h with
  | declared => exact ⟨_, by simp [Stmt.exprs], hself _⟩
  | type => exact ⟨_, by simp [Stmt.exprs], hself _⟩
  | base => exact ⟨_, mem_cons_of_mem _ mem_cons_self, hpart (by simp [Expr.children])⟩
  | items => exact ⟨_, mem_cons_of_mem _ mem_cons_self, hpart (by simp [Expr.children])⟩
  | value => exact ⟨_, by simp [Stmt.exprs], hself _⟩
  | assigned => exact ⟨_, by simp [Stmt.exprs], hself _⟩
  | iterator => exact ⟨_, by simp [Stmt.exprs], hself _⟩
  | decorator h => exact ⟨_, by simp [Stmt.exprs, h], hself _⟩
  | default h => exact ⟨_, by simp [Stmt.exprs, Params.exprs, h], hself _⟩
  | classDecorator h => exact ⟨_, by simp [Stmt.exprs, h], hself _⟩
  | parent h => exact ⟨_, by simp [Stmt.exprs, h], hself _⟩

/-- What is said of a node is said at the position of that node or of one right below it. -/
theorem exists_of_refusal? (h : e.refusal? = some (q, message)) : ∃ d ∈ e.parts, d.pos? = q := by
  rw [Expr.parts_eq]
  cases e with
  | call p f args keywords =>
    simp only [Expr.refusal?, Option.ite_none_left_eq_some, Option.some.injEq, Prod.mk.injEq] at h
    obtain ⟨-, rfl, -⟩ := h
    refine ⟨f, mem_cons_of_mem _ (mem_flatMap.2 ⟨f, by simp [Expr.children], ?_⟩), rfl⟩
    rw [Expr.parts_eq]
    exact mem_cons_self
  | constant p d =>
    simp only [Expr.refusal?, Option.ite_none_left_eq_some, Option.some.injEq, Prod.mk.injEq] at h
    obtain ⟨-, rfl, -⟩ := h
    exact ⟨_, mem_cons_self, rfl⟩
  | name | unary | binary | bool | compare | field | subscript => cases h
  | _ =>
    cases h
    exact ⟨_, mem_cons_self, rfl⟩

theorem placed_of_mem_parts {φ : Option Position → Prop} (h : e.Placed φ) (hd : d ∈ e.parts) :
    d.Placed φ := by
  induction e using Expr.children_induction with
  | step e ih =>
    rw [Expr.parts_eq] at hd
    rcases mem_cons.1 hd with rfl | hd
    · exact h
    · obtain ⟨c, hc, hd⟩ := mem_flatMap.1 hd
      exact ih c hc (h.children c hc) hd

theorem loopVars_eq_nil {vars : Names V} (h : ∀ v ∈ vars, v.1 ∈ loops) :
    I.loopVars vars ≠ [] → loops ≠ [] := by
  rintro hne rfl
  cases vars with
  | nil => exact hne rfl
  | cons v vars => exact absurd (h v mem_cons_self) not_mem_nil

/-- A position at some places, or a missing one where there are loops. -/
def Known (loops : List String) (S : Position → Prop) (q : Option Position) : Prop :=
  (∃ p ∈ q, p.Within S) ∨ q = none ∧ loops ≠ []

/-- What is said of a statement is said at a place in it, or of a constant that stands for a
variable of a loop. -/
theorem Objection.known (h : Objection I loops s q message)
    (hs : s.Placed fun q => ∃ p ∈ q, p.Within S) (hstart : startPosition.Within S) :
    Known loops S q := by
  have hpos : Known loops S (some s.pos) :=
    .inl (hs.marks s.pos (by cases s <;> exact mem_cons_self ..))
  have hbound {e : Expr} {vars : Names V} (he : e ∈ s.exprs) (hvars : ∀ v ∈ vars, v.1 ∈ loops) :
      (e.bind (I.loopVars vars)).Placed (Known loops S) := by
    have hplaced : e.Placed (Known loops S) := fun d hd => .inl (hs.exprs e he d hd)
    exact hplaced.bind fun hne => .inr ⟨rfl, loopVars_eq_nil hvars hne⟩
  have hgiven {e : Expr} {vars : Names V} (he : e ∈ s.exprs) (hvars : ∀ v ∈ vars, v.1 ∈ loops) :
      (e.bind (I.loopVars vars)).Placed fun q => ∀ p ∈ q, p.Within S := by
    intro d hd p hp
    rcases hbound he hvars d hd with ⟨q, hq, hwithin⟩ | ⟨hnone, -⟩
    · cases hq.symm.trans hp
      exact hwithin
    · cases hnone.symm.trans hp
  cases h with
  | whole => exact hpos
  | node hfault =>
    obtain ⟨d, hd, he⟩ := mem_exprs_of_exprFault hfault
    exact .inl (hs.exprs d hd _ he)
  | mark hfault =>
    refine .inl ?_
    cases hfault with
    | argument ha => exact hs.marks _ (mem_cons_of_mem _ (mem_map_of_mem ha))
    | keyword hk => exact hs.marks _ (mem_cons_of_mem _ (mem_map_of_mem hk))
    | star ha => exact hs.marks _ (mem_cons_of_mem _ (mem_map_of_mem ha))
    | index ht hr => exact (hs.children _ (mem_append_left _ ht)).of_mem_writes hr
  | target he hvars => exact (hbound he hvars).pos
  | part he hvars hd hrefusal =>
    obtain ⟨c, hc, rfl⟩ := exists_of_refusal? hrefusal
    exact placed_of_mem_parts (hbound he hvars) hd c hc
  | test hvars hd hrefusal =>
    obtain ⟨c, hc, rfl⟩ := exists_of_refusal? hrefusal
    exact .inl (placed_of_mem_parts ((hgiven mem_cons_self hvars).placed hstart) hd c hc)
  | @raised _ e _ vars _ _ _ he hvars =>
    refine .inl ⟨_, rfl, ?_⟩
    unfold placeOf
    cases hq : (e.bind (I.loopVars vars)).pos? with
    | none => exact hstart
    | some p => exact (hgiven he hvars).pos p hq
  | undefined => exact hpos
  | assertion => exact hpos

/-! ## Texts -/

/-- Statements that stand in a text: their positions, and those of all their parts, are places in
it. -/
structure StandIn (text : String) (body : List Stmt) : Prop where
  placed : ∀ s ∈ body,
    s.Placed fun q => ∃ p ∈ q, p.Within (Source.Places.of (Source.normalLines text.toList))
  empty : text.toList = [] → body = []

variable {text : String} {body : List Stmt}

theorem placed_of_mem_nested {φ : Option Position → Prop} {t : Stmt} (h : s.Placed φ)
    (ht : t ∈ s.nested) : t.Placed φ := by
  induction h with
  | @intro s hmarks hexprs hchildren ih =>
    rw [Stmt.nested_eq] at ht
    rcases mem_cons.1 ht with rfl | ht
    · exact .intro hmarks hexprs hchildren
    · obtain ⟨c, hc, ht⟩ := mem_flatMap.1 ht
      exact ih c hc ht

theorem StandIn.placed_of_mem (h : StandIn text body) (hs : s ∈ Stmt.nestedAll body) :
    s.Placed fun q => ∃ p ∈ q, p.Within (Source.Places.of (Source.normalLines text.toList)) := by
  rw [Stmt.nestedAll_eq_flatMap] at hs
  obtain ⟨t, ht, hs⟩ := mem_flatMap.1 hs
  exact placed_of_mem_nested (h.placed t ht) hs

theorem StandIn.ne_nil (h : StandIn text body) (hs : s ∈ Stmt.nestedAll body) :
    text.toList ≠ [] := by
  intro hempty
  rw [h.empty hempty] at hs
  cases hs

theorem startPosition_within (text : List Char) :
    startPosition.Within (Source.Places.of (Source.normalLines text)) := by
  obtain ⟨init, hinit⟩ := Source.exists_normalLines_eq text
  exact ⟨_, ⟨[], rfl, rfl⟩, by simp [hinit]⟩

/-- The statements that the grammar reads stand in their text. -/
theorem standIn_read (h : Source.read text.toList = some body) : StandIn text body := by
  refine ⟨fun s hs => (Source.within_read h s hs).placed, fun hempty => ?_⟩
  rw [hempty] at h
  exact (Option.some.inj h).symm

theorem lineAt?_eq_some {p : Position} (hne : text.toList ≠ [])
    (hp : p.Within (Source.Places.of (Source.normalLines text.toList))) :
    ∃ line, Origin.lineAt? (Text.splitLines text) p.line = some line := by
  obtain ⟨rest, hstands, hrest⟩ := hp
  obtain ⟨hone, hle⟩ := hstands.line_le hrest
  have hlength := Source.count_normalLines_le_length_linesFrom [] hne
  rw [← Text.lines, ← length_map (f := String.ofList), ← Text.splitLines] at hlength
  unfold Origin.lineAt?
  dsimp only
  rw [if_pos (by omega)]
  exact ⟨_, List.getElem?_eq_getElem (by omega)⟩

end Reading

end DataDiagram
