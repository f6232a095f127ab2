import DataDiagram.Source.Pattern
/-!
# Reading statements

The grammar of statements and of whole source texts.
-/

namespace DataDiagram.Source

/-- The readers of blocks that lie one level deeper. -/
structure Blocks where
  exprs : Nested
  depth : Nat
  block : Reader (List Stmt)
  orelse : Reader (List Stmt)

namespace Stmt

open Reader

/-! ### Simple statements -/

def starExpressions (n : Nested) : Reader Expr := Expr.tupled (Expr.starExpression n)

def assigned (n : Nested) : Reader Expr := do
  if ← atKeyword .yield_ then Expr.yieldExpression n else starExpressions n

def augmentOp : Option TokenKind → Option BinaryOp
  | some (.symbol .plusEquals) => some .add
  | some (.symbol .minusEquals) => some .sub
  | some (.symbol .starEquals) => some .mult
  | some (.symbol .slashEquals) => some .div
  | some (.symbol .percentEquals) => some .mod
  | some (.symbol .atEquals) => some .matMult
  | some (.symbol .ampersandEquals) => some .bitAnd
  | some (.symbol .barEquals) => some .bitOr
  | some (.symbol .caretEquals) => some .bitXor
  | some (.symbol .doubleStarEquals) => some .pow
  | some (.symbol .doubleSlashEquals) => some .floorDiv
  | some (.symbol .shiftLeftEquals) => some .leftShift
  | some (.symbol .shiftRightEquals) => some .rightShift
  | _ => none

def assignments (n : Nested) : (fuel : Nat) → Expr → Reader (List Expr × Expr)
  | 0, _ => fail
  | fuel + 1, e => do
    if ← skipSymbol .equals then
      match e.asTarget? .store with
      | none => fail
      | some t =>
        let (targets, value) ← assignments n fuel (← assigned n)
        return (t :: targets, value)
    else return ([], e)

def parenthesisedTarget (n : Nested) : Reader Expr := do
  symbol .openParen
  let e ← n.expression
  symbol .closeParen
  match e.asSingleTarget? with
  | some t => return t
  | none => fail

def declaration (n : Nested) (start : Position) (target : Expr) (simple : Bool) : Reader Stmt := do
  symbol .colon
  let type ← n.expression
  let value ← optionalAfter (skipSymbol .equals) (assigned n)
  return declare start target type value simple

/-- An assignment, a declaration or an expression.  A target that starts with a single target
between parentheses can be declared only if nothing else belongs to it. -/
def assignment (n : Nested) : Reader Stmt := do
  let start ← here
  if (← ahead (do let _ ← assigned n; atSymbol .colon)) == some true then
    if (← ahead (parenthesisedTarget n)).isSome then
      declaration n start (← parenthesisedTarget n) false
    else
      match (← assigned n).asSingleTarget? with
      | some t =>
        let simple := match t with
          | .name .. => true
          | _ => false
        declaration n start t simple
      | none => fail
  else
    let e ← assigned n
    match augmentOp (← peek) with
    | some op =>
      advance
      match e.asSingleTarget? with
      | some t => return augment start t op (← assigned n)
      | none => fail
    | none =>
      if ← atSymbol .equals then
        let (targets, value) ← assignments n (← remaining) e
        return assign start targets value
      else return expr start e

def dottedName : Reader String := do
  let first ← word
  let more ← many (optionalAfter (skipSymbol .dot) word)
  return ".".intercalate (first :: more)

def newName : Reader (Option String) := optionalAfter (skipKeyword .as_) word

def importedName (name : Reader String) : Reader Alias := do
  let start ← here
  return ⟨start, ← name, ← newName⟩

def never : Reader Bool := return false

def importedNames (name : Reader String) : Reader (List Alias) := do
  return (← commaSeparated (importedName name) never).1

def importLevel : Reader Nat := do
  let dots ← many do
    if ← skipSymbol .dot then return some 1
    else if ← skipSymbol .ellipsis then return some 3
    else return none
  return dots.foldl (· + ·) 0

def importStatement : Reader Stmt := do
  let start ← here
  if ← skipKeyword .import_ then return imports start (← importedNames dottedName)
  else
    keyword .from_
    let level ← importLevel
    let module ← if ← atKeyword .import_ then
        if level == 0 then fail else pure none
      else some <$> dottedName
    keyword .import_
    let place ← here
    if ← skipSymbol .star then return importsFrom start module [⟨place, "*", none⟩] level
    else if ← skipSymbol .openParen then
      let (names, _) ← commaSeparated (importedName word) (atSymbol .closeParen)
      symbol .closeParen
      return importsFrom start module names level
    else return importsFrom start module (← importedNames word) level

def deleted (n : Nested) : Reader Stmt := do
  let start ← here
  let e ← n.bitwiseOr
  match e.asTarget? .delete with
  | some t => return expr start t
  | none => fail

def part (reader : Reader Expr) : Reader Stmt := do
  let start ← here
  return expr start (← reader)

def simple (n : Nested) : Reader Stmt := do
  let start ← here
  match ← peek with
  | some (.keyword .return_) =>
    advance
    return ret start (← optionalAfter Expr.atExpression (starExpressions n))
  | some (.keyword .import_) | some (.keyword .from_) => importStatement
  | some (.keyword .raise_) =>
    advance
    if startsExpression (← peek) then
      let raised ← part n.expression
      let cause ← optionalAfter (skipKeyword .from_) (part n.expression)
      return other start .raising (raised :: cause.toList)
    else return other start .raising []
  | some (.keyword .pass_) =>
    advance
    return pass start
  | some (.keyword .del_) =>
    advance
    let (targets, _) ← commaSeparated (deleted n) Expr.noMore
    return other start .delete targets
  | some (.keyword .assert_) =>
    advance
    let test ← part n.expression
    let message ← optionalAfter (skipSymbol .comma) (part n.expression)
    return other start .assertion (test :: message.toList)
  | some (.keyword .break_) =>
    advance
    return other start .leaveLoop []
  | some (.keyword .continue_) =>
    advance
    return other start .continueLoop []
  | some (.keyword .global_) =>
    advance
    return global start (← commaSeparated word never).1
  | some (.keyword .nonlocal_) =>
    advance
    let _ ← commaSeparated word never
    return other start .nonlocal []
  | _ => assignment n

def simpleLine (n : Nested) : (fuel : Nat) → Reader (List Stmt)
  | 0 => fail
  | fuel + 1 => do
    let first ← simple n
    if ← skipSymbol .semicolon then
      match ← peek with
      | some .newline =>
        advance
        return [first]
      | _ =>
        let more ← simpleLine n fuel
        return first :: more
    else
      expect .newline
      return [first]

/-! ### Compound statements -/

def body (b : Blocks) : Reader (List Stmt) := do
  symbol .colon
  b.block

/-- The block after `else`, if there is one. -/
def elseBody (b : Blocks) : Reader (List Stmt) := do
  if ← skipKeyword .else_ then body b else return []

/-- The block after `else`, if there can be one. -/
def elseBodyIf (allowed : Bool) (b : Blocks) : Reader (List Stmt) :=
  if allowed then elseBody b else return []

def paramType (n : Nested) : Reader (Option Expr) := optionalAfter (skipSymbol .colon) n.expression

/-- What may follow the name of further positional arguments. -/
def starParamType (n : Nested) : Reader (Option Expr) :=
  optionalAfter (skipSymbol .colon) (Expr.starExpression n)

def paramParts (ps : Params) : List Expr :=
  ps.positionalOnly.filterMap Param.type ++ ps.positional.filterMap Param.type ++
    (ps.rest.bind Param.type).toList ++ ps.keywordOnly.filterMap Param.type ++
    ps.keywordDefaults.filterMap id ++ (ps.restKeywords.bind Param.type).toList ++ ps.defaults

def functionStatement (b : Blocks) (start : Position) (isAsync : Bool) (decorators : List Expr) :
    Reader Stmt := do
  keyword .def_
  let name ← word
  symbol .openParen
  let ps ← Expr.params b.exprs (paramType b.exprs) (starParamType b.exprs) .closeParen
  symbol .closeParen
  let returns ← optionalAfter (skipSymbol .arrow) b.exprs.expression
  let stmts ← body b
  if isAsync then
    let wrap (e : Expr) : Stmt := expr start e
    return other start .asyncFunction
      ((paramParts ps).map wrap ++ stmts ++ decorators.map wrap ++ returns.toList.map wrap)
  else return function start name ps stmts decorators returns

def classStatement (b : Blocks) (decorators : List Expr) : Reader Stmt := do
  let start ← here
  keyword .class_
  let name ← word
  let args := (← optionalAfter (skipSymbol .openParen) (Expr.arguments b.exprs)).getD []
  let keywords := args.filterMap fun a => match a with
    | .keyword p id value => some (⟨p, id, value⟩ : ClassKeyword)
    | _ => none
  let stmts ← body b
  return cls start name (Expr.positionals args) keywords stmts decorators

def loopStatement (b : Blocks) (start : Position) (isAsync : Bool) : Reader Stmt := do
  keyword .for_
  let place ← here
  let target ← Expr.starTargets b.exprs
  keyword .in_
  let iter ← starExpressions b.exprs
  let stmts ← body b
  let orelse ← elseBody b
  if isAsync then
    return other start .asyncFor (expr place target :: expr place iter :: stmts ++ orelse)
  else return loop start target iter stmts orelse

def withItem (b : Blocks) : Reader (List Stmt) := do
  let start ← here
  let value ← b.exprs.expression
  if ← skipKeyword .as_ then
    let target ← Expr.starTarget b.exprs
    if (← atSymbol .comma) || (← atSymbol .closeParen) || (← atSymbol .colon) then
      return [expr start value, expr start target]
    else fail
  else return [expr start value]

def withStatement (b : Blocks) (start : Position) (isAsync : Bool) : Reader Stmt := do
  keyword .with_
  let grouped : Reader (List Stmt) := do
    symbol .openParen
    let (items, _) ← commaSeparated (withItem b) (atSymbol .closeParen)
    symbol .closeParen
    if ← atSymbol .colon then return items.flatten else fail
  let plain : Reader (List Stmt) := do
    let (items, _) ← commaSeparated (withItem b) never
    return items.flatten
  let items ← either grouped plain
  let stmts ← body b
  return other start (if isAsync then .asyncWith else .withBlock) (items ++ stmts)

def handler (b : Blocks) : Reader (Option (Bool × List Stmt)) := do
  if ← skipKeyword .except_ then
    let group ← skipSymbol .star
    if ← atSymbol .colon then
      if group then fail else return some (false, ← body b)
    else
      let caught ← part b.exprs.expression
      let _ ← newName
      return some (group, caught :: (← body b))
  else return none

def tryStatement (b : Blocks) : Reader Stmt := do
  let start ← here
  keyword .try_
  let stmts ← body b
  let handlers ← many (handler b)
  let orelse ← elseBodyIf (!handlers.isEmpty) b
  let final ← optionalAfter (skipKeyword .finally_) (body b)
  let parts := stmts ++ (handlers.map Prod.snd).flatten ++ orelse ++ final.getD []
  if handlers.isEmpty && final.isNone then fail
  else if handlers.all Prod.fst && !handlers.isEmpty then return other start .tryGroup parts
  else if handlers.any Prod.fst then fail
  else return other start .tryBlock parts

def branches (b : Blocks) : Reader (List Stmt) := do
  if ← atKeyword .elif_ then
    let start ← here
    advance
    let test ← Expr.namedExpression b.exprs
    let stmts ← body b
    let orelse ← b.orelse
    return [cond start test stmts orelse]
  else elseBody b

def choice (b : Blocks) : Reader Stmt := do
  let start ← here
  keyword .if_
  let test ← Expr.namedExpression b.exprs
  let stmts ← body b
  let orelse ← match ← peek with
    | some (.keyword .elif_) | some (.keyword .else_) => b.orelse
    | _ => pure []
  return cond start test stmts orelse

def whileStatement (b : Blocks) : Reader Stmt := do
  let start ← here
  keyword .while_
  let test ← part (Expr.namedExpression b.exprs)
  let stmts ← body b
  let orelse ← elseBody b
  return other start .whileLoop (test :: stmts ++ orelse)

def caseBlock (b : Blocks) : Reader (Option (List Stmt)) := do
  if ← isNext (.name "case") then
    advance
    Pattern.patterns b.depth
    let guard ← optionalAfter (skipKeyword .if_) (part (Expr.namedExpression b.exprs))
    let stmts ← body b
    return some (guard.toList ++ stmts)
  else return none

def matchStatement (b : Blocks) : Reader Stmt := do
  let start ← here
  if ← isNext (.name "match") then
    advance
    let subject ← part (Expr.tupled (Expr.starNamed b.exprs))
    match subject with
    | expr _ (.starred ..) => fail
    | subject =>
      symbol .colon
      expect .newline
      expect .indent
      let cases ← many (caseBlock b)
      expect .dedent
      if cases.isEmpty then fail else return other start .matchBlock (subject :: cases.flatten)
  else fail

def decorators (n : Nested) : Reader (List Expr) :=
  many do
    if ← skipSymbol .at_ then
      let e ← Expr.namedExpression n
      expect .newline
      return some e
    else return none

def statement (b : Blocks) : Reader (List Stmt) := do
  let start ← here
  let one (reader : Reader Stmt) : Reader (List Stmt) := (fun s => [s]) <$> reader
  match ← peek with
  | some (.keyword .if_) => one (choice b)
  | some (.keyword .while_) => one (whileStatement b)
  | some (.keyword .for_) => one (loopStatement b start false)
  | some (.keyword .with_) => one (withStatement b start false)
  | some (.keyword .try_) => one (tryStatement b)
  | some (.keyword .def_) => one (functionStatement b start false [])
  | some (.keyword .class_) => one (classStatement b [])
  | some (.keyword .async_) =>
    advance
    match ← peek with
    | some (.keyword .for_) => one (loopStatement b start true)
    | some (.keyword .with_) => one (withStatement b start true)
    | _ => one (functionStatement b start true [])
  | some (.symbol .at_) =>
    let ds ← decorators b.exprs
    let place ← here
    match ← peek with
    | some (.keyword .class_) => one (classStatement b ds)
    | some (.keyword .async_) =>
      advance
      one (functionStatement b place true ds)
    | _ => one (functionStatement b place false ds)
  | some (.name "match") =>
    either (one (matchStatement b)) (do simpleLine b.exprs (← remaining))
  | _ => simpleLine b.exprs (← remaining)

def statements (b : Blocks) : Reader (List Stmt) := do
  let lines ← many do
    match ← peek with
    | none | some .dedent => return none
    | _ => return some (← statement b)
  return lines.flatten

def block (b : Blocks) : Reader (List Stmt) := do
  match ← peek with
  | some .newline =>
    advance
    expect .indent
    let stmts ← statements b
    expect .dedent
    if stmts.isEmpty then fail else return stmts
  | _ => simpleLine b.exprs (← remaining)

end Stmt

namespace Blocks

def atDepth (exprs : Nested) (patterns : Nat) : Nat → Blocks
  | 0 => ⟨exprs, patterns, Reader.fail, Reader.fail⟩
  | depth + 1 =>
    let b := atDepth exprs patterns depth
    ⟨exprs, patterns, Stmt.block b, Stmt.branches b⟩

end Blocks

def read (text : List Char) : Option (List Stmt) := do
  let ts ← tokens text
  let depth := text.length + 2
  let (stmts, rest) ← Stmt.statements (.atDepth (.atDepth depth) depth depth) ts
  if rest.isEmpty then return stmts else none

end DataDiagram.Source
