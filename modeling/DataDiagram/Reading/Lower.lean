import DataDiagram.Code.Basic
import DataDiagram.Reading.Evaluator
import DataDiagram.Source.Walk
/-!
# From source trees to code trees

The code of the expressions and statements of a function.  Loops are unrolled, a test that can be
decided ahead of the program is, and names of static numbers become constants.  What is evaluated
ahead of the program is left to an evaluator.
-/

namespace DataDiagram.Reading

open Source (Expr Stmt UnaryOp BinaryOp BoolOp CompareOp)

/-- Why a source text is not read as a module. -/
inductive ReadError
  | illFormed
  | nullCharacter
  | unencodable (message : String)
  | code (e : CodeError)
  /-- An evaluation was left in a way that reading does not handle. -/
  | left (kind : ErrorKind) (message : String)

namespace ReadError

def message : ReadError → String
  | illFormed => ""
  | nullCharacter => "source code string cannot contain null bytes"
  | unencodable message => message
  | code e => e.message
  | left _ message => message

def kind : ReadError → ErrorKind
  | illFormed => .illFormed
  | nullCharacter => .value
  | unencodable _ => .encoding
  | code e => e.kind
  | left kind _ => kind

end ReadError

/-- What code is read in: the lines of the text, and the constants that names stand for. -/
structure Context where
  lines : List String
  constant? : String → Option Datum

namespace Context

def fileName : String := "<string>"

def origin (cx : Context) (p : Option Position) : Origin := ⟨fileName, cx.lines, p⟩

def error (cx : Context) (p : Position) (message : String) : ReadError :=
  .code ((cx.origin (some p)).error message)

def errorAt (cx : Context) (e : Expr) (message : String) : ReadError :=
  .code ((cx.origin e.pos?).error message)

/-- What a failure makes of the statement at a position that is being read. -/
def failure (cx : Context) (p : Position) : Failure → ReadError
  | .assertion text => cx.error p text
  | .exception kind message | .exit kind message => .left kind message

end Context

/-- What code is read in among some static names: integers among them are constants. -/
def Evaluator.context {σ V : Type} (I : Evaluator σ V) (lines : List String) (env : Names V) :
    Context :=
  ⟨lines, fun id => (env.lookup id).bind I.constant?⟩

/-! ### Expressions -/

def operatorKind : BinaryOp → String
  | .add => "Add"
  | .sub => "Sub"
  | .mult => "Mult"
  | .matMult => "MatMult"
  | .div => "Div"
  | .mod => "Mod"
  | .pow => "Pow"
  | .leftShift => "LShift"
  | .rightShift => "RShift"
  | .bitOr => "BitOr"
  | .bitXor => "BitXor"
  | .bitAnd => "BitAnd"
  | .floorDiv => "FloorDiv"

def binarySymbol? : BinaryOp → Option String
  | .add => some "+"
  | .sub => some "-"
  | .mult => some "*"
  | _ => none

def augmentSymbol? : BinaryOp → Option String
  | .add => some "+"
  | .sub => some "-"
  | _ => none

def compareSymbol : CompareOp → Except String String
  | .eq => .ok "=="
  | .notEq => .ok "!="
  | .lt => .ok "<"
  | .ltE => .ok "<="
  | .gt => .ok ">"
  | .gtE => .ok ">="
  | .same => .error "Is"
  | .notSame => .error "IsNot"
  | .member => .error "In"
  | .notMember => .error "NotIn"

def boolSymbol : BoolOp → String
  | .conj => "and"
  | .disj => "or"

def comparePairs (ref : Option Origin) : List CompareOp → List Code → Except ReadError (List Code)
  | op :: ops, a :: b :: rest =>
    match compareSymbol op with
    | .error kind => .error (.code (.noPosition kind))
    | .ok symbol => do
      let more ← comparePairs ref ops (b :: rest)
      return .opOf ref symbol [a, b] :: more
  | _, _ => .ok []

def conjunction (ref : Option Origin) : List Code → Code
  | [c] => c
  | pairs => .opOf ref "and" pairs

def withRef (ref : Option Origin) : Code → Code
  | .const _ val => .const ref val
  | .op _ op children => .op ref op children
  | .name _ id => .name ref id
  | .attr _ value attr => .attr ref value attr
  | .item _ value item => .item ref value item
  | .call _ func args => .call ref func args
  | c => c

mutual

def lowerExpr (cx : Context) : Expr → Except ReadError Code
  | .constant p d =>
    match d.int? with
    | some _ => .ok (.constOf (some (cx.origin p)) d)
    | none => .error (.code ((cx.origin p).error "unsupported value"))
  | .name p id _ =>
    let ref := some (cx.origin (some p))
    match cx.constant? id with
    | some d => .ok (.constOf ref d)
    | none => .ok (.nameOf ref id)
  | .unary p op e =>
    let ref := some (cx.origin (some p))
    match op with
    | .plus => do return withRef ref (← lowerExpr cx e)
    | .minus => do return .opOf ref "-" [← lowerExpr cx e]
    | .logicalNot => do return .opOf ref "not" [← lowerExpr cx e]
    | .invert => .error (.code (.noPosition "Invert"))
  | .binary p op a b =>
    match binarySymbol? op with
    | some symbol => do
      let left ← lowerExpr cx a
      let right ← lowerExpr cx b
      return .opOf (some (cx.origin (some p))) symbol [left, right]
    | none => .error (.code (.noPosition (operatorKind op)))
  | .bool p op values => do
    return .opOf (some (cx.origin (some p))) (boolSymbol op) (← lowerExprs cx values)
  | .compare p a ops rights => do
    let ref := some (cx.origin (some p))
    let left ← lowerExpr cx a
    let others ← lowerExprs cx rights
    return conjunction ref (← comparePairs ref ops (left :: others))
  | .call p f args keywords =>
    if !keywords.isEmpty then .error (.code (.noPosition "list"))
    else
      match f with
      | .name _ id _ => do
        return .callOf (some (cx.origin (some p))) id (← lowerExprs cx args)
      | f => .error (cx.errorAt f "unsupported function")
  | .field p e attr _ => do
    return .attrOf (some (cx.origin (some p))) (← lowerExpr cx e) attr
  | .subscript p e i _ => do
    let value ← lowerExpr cx e
    let item ← lowerExpr cx i
    return .item (some (cx.origin (some p))) value item
  | .slice p .. | .tuple p .. | .list p .. | .starred p .. | .conditional p .. | .lambda p ..
  | .set p .. | .dict p .. | .comprehension p .. | .await p .. | .yield p .. | .yieldFrom p ..
  | .joined p .. | .formatted p .. | .named p .. =>
    .error (cx.error p "unsupported syntax")

def lowerExprs (cx : Context) : List Expr → Except ReadError (List Code)
  | [] => .ok []
  | e :: rest => do
    let c ← lowerExpr cx e
    let more ← lowerExprs cx rest
    return c :: more

end

/-! ### Static parts -/

abbrev Read (σ : Type) := ExceptT ReadError (StateM σ)

def startPosition : Position := ⟨1, 0⟩

/-- Where an expression is taken to stand if it is nowhere in the text. -/
def placeOf (e : Expr) : Position := e.pos?.getD startPosition

section Static

variable {σ V α : Type}

/-- The value of a part at `part` of the statement at `p`. -/
def static (cx : Context) (p part : Position) (x : StateM σ (Evaluated V)) : Read σ V := do
  match ← x with
  | .value v => return v
  | .raised text => throw (cx.error part s!"not static expression ({text})")
  | .left f => throw (cx.failure p f)

def orFail (cx : Context) (p : Position) (x : StateM σ (Except Failure α)) : Read σ α := do
  match ← x with
  | .ok a => return a
  | .error f => throw (cx.failure p f)

/-- What is made of all rounds of a loop at `p`. -/
def Walk.rounds (cx : Context) (p : Position) (round : V → Read σ (List α)) :
    Walk σ V → Read σ (List α)
  | .done s => do
    set s
    return []
  | .failed f => throw (cx.failure p f)
  | .next v s more => do
    set s
    let own ← round v
    let s ← get
    let rest ← rounds cx p round (more s)
    return own ++ rest

end Static

section Statements

variable {σ V : Type} (I : Evaluator σ V) (lines : List String) (env : Names V)

/-- What a test is, if it can be decided.  Only what cannot be handled leaves the evaluation of a
test, but whatever happens when its value is tested does. -/
def staticTest (p : Position) (vars : Names V) (test : Expr) : Read σ (Option Bool) := do
  let cx := I.context lines env
  match ← I.evaluate env vars test with
  | .value v => return some (← orFail cx p (I.truth v))
  | .left (.exit kind message) => throw (.left kind message)
  | .raised _ | .left _ => return none

/-! ### Statements -/

def lowerTarget (cx : Context) (e : Expr) : Read σ Code := do
  let c ← lowerExpr cx e
  if c.isLookup then return c else throw (cx.errorAt e "unsupported assignment target")

mutual

def lowerStmt (vars : Names V) : Stmt → Read σ Code
  | .expr p e => do
    let cx := I.context lines env
    match e with
    | .call .. =>
      return .bareCall (some (cx.origin (some p))) (← lowerExpr cx (e.bind (I.loopVars vars)))
    | _ => throw (cx.error p "unsupported bare expression")
  | .assign p targets value => do
    let cx := I.context lines env
    match targets with
    | [target] =>
      let left ← lowerTarget cx (target.bind (I.loopVars vars))
      let right ← lowerExpr cx (value.bind (I.loopVars vars))
      return .assign (some (cx.origin (some p))) left right .nothing
    | _ => throw (cx.error p "unsupported multiple assignments")
  | .augment p target op value => do
    let cx := I.context lines env
    match augmentSymbol? op with
    | some symbol =>
      let left ← lowerTarget cx (target.bind (I.loopVars vars))
      let right ← lowerExpr cx (value.bind (I.loopVars vars))
      return .assign (some (cx.origin (some p))) left right (.text symbol)
    | none => throw (.code (.noPosition (operatorKind op)))
  | .cond p test body orelse => do
    let cx := I.context lines env
    let ref := some (cx.origin (some p))
    match ← staticTest I lines env p vars test with
    | some true => return .mkBlock ref (← lowerStmts vars body)
    | some false => return .mkBlock ref (← lowerStmts vars orelse)
    | none =>
      let holds ← lowerStmts vars body
      let fails ← lowerStmts vars orelse
      -- Where the test has been evaluated, all its parts have been given places.
      let test ← lowerExpr cx ((test.bind (I.loopVars vars)).placed startPosition)
      return .cond ref test (.mkBlock ref holds) (.mkBlock ref fails)
  | .loop p target iter body orelse => do
    let cx := I.context lines env
    match target with
    | .name _ id _ =>
      if !orelse.isEmpty then throw (cx.error p "unsupported 'else' in for loop")
      let v ← static cx p (placeOf (iter.bind (I.loopVars vars))) (I.evaluate env vars iter)
      let s ← get
      let rounds ← (I.walk v s).rounds cx p fun v => lowerRound ((id, v) :: vars) id body
      return .mkBlock (some (cx.origin (some p))) rounds
    | target => throw (cx.errorAt target "unsupported iterator")
  | .ret p none => do
    let cx := I.context lines env
    return .ret (some (cx.origin (some p))) .nothing
  | .ret p (some e) => do
    let cx := I.context lines env
    return .ret (some (cx.origin (some p))) (← lowerExpr cx (e.bind (I.loopVars vars)))
  | .pass p => do
    let cx := I.context lines env
    return .pass (some (cx.origin (some p)))
  | .declare p .. | .function p .. | .cls p .. =>
    throw ((I.context lines env).error p "forbidden nested declaration")
  | .imports p _ | .importsFrom p .. | .global p _ | .other p .. =>
    throw ((I.context lines env).error p "unsupported syntax")

def lowerStmts (vars : Names V) : List Stmt → Read σ (List Code)
  | [] => return []
  | s :: rest => do
    let c ← lowerStmt vars s
    let more ← lowerStmts vars rest
    return c :: more

/-- The code of one round of a loop, in which its variable `id` must not be written. -/
def lowerRound (vars : Names V) (id : String) : List Stmt → Read σ (List Code)
  | [] => return []
  | s :: rest => do
    match s.firstWrite? id with
    | some p => throw ((I.context lines env).error p "cannot assign for-loop index")
    | none =>
      let c ← lowerStmt vars s
      let more ← lowerRound vars id rest
      return c :: more

end

end Statements

end DataDiagram.Reading
