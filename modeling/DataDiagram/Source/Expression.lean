import DataDiagram.Source.Formatted
import DataDiagram.Source.Reader
import DataDiagram.Source.Target
/-!
# Reading expressions

The grammar of expressions, from the loosest operators to the tightest.  A node stands at the first
token of what it is read from.  Readers that come back to themselves do so through `Nested`, and
only after a token has been taken.
-/

namespace DataDiagram.Source

/-- The readers of expressions that lie one level deeper. -/
structure Nested where
  expression : Reader Expr
  disjunction : Reader Expr
  inversion : Reader Expr
  bitwiseOr : Reader Expr
  factor : Reader Expr

namespace Nested

def none : Nested :=
  ⟨Reader.fail, Reader.fail, Reader.fail, Reader.fail, Reader.fail⟩

end Nested

def startsExpression : Option TokenKind → Bool
  | some (.name _) | some (.number _) | some (.text _) | some (.bytes _)
  | some (.formatted ..) => true
  | some (.symbol s) =>
    s == .openParen || s == .openBracket || s == .openBrace || s == .minus || s == .plus ||
      s == .tilde || s == .ellipsis || s == .star
  | some (.keyword k) =>
    k == .not_ || k == .lambda_ || k == .await_ || k == .none_ || k == .true_ || k == .false_
  | _ => false

namespace Expr

open Reader

def atExpression : Reader Bool := do return startsExpression (← peek)

def noMore : Reader Bool := do return !startsExpression (← peek)

/-! ### Operators -/

def productOp : Option TokenKind → Option BinaryOp
  | some (.symbol .star) => some .mult
  | some (.symbol .slash) => some .div
  | some (.symbol .doubleSlash) => some .floorDiv
  | some (.symbol .percent) => some .mod
  | some (.symbol .at_) => some .matMult
  | _ => none

def sumOp : Option TokenKind → Option BinaryOp
  | some (.symbol .plus) => some .add
  | some (.symbol .minus) => some .sub
  | _ => none

def shiftOp : Option TokenKind → Option BinaryOp
  | some (.symbol .shiftLeft) => some .leftShift
  | some (.symbol .shiftRight) => some .rightShift
  | _ => none

def bitAndOp : Option TokenKind → Option BinaryOp
  | some (.symbol .ampersand) => some .bitAnd
  | _ => none

def bitXorOp : Option TokenKind → Option BinaryOp
  | some (.symbol .caret) => some .bitXor
  | _ => none

def bitOrOp : Option TokenKind → Option BinaryOp
  | some (.symbol .bar) => some .bitOr
  | _ => none

def unaryOp : Option TokenKind → Option UnaryOp
  | some (.symbol .plus) => some .plus
  | some (.symbol .minus) => some .minus
  | some (.symbol .tilde) => some .invert
  | _ => none

def leftOperands (op : Option TokenKind → Option BinaryOp) (operand : Reader Expr)
    (start : Position) : (fuel : Nat) → Expr → Reader Expr
  | 0, e => return e
  | fuel + 1, e => do
    match op (← peek) with
    | none => return e
    | some o =>
      advance
      let right ← operand
      leftOperands op operand start fuel (binary start o e right)

def leftGrouped (op : Option TokenKind → Option BinaryOp) (operand : Reader Expr) : Reader Expr :=
  do
  let start ← here
  let first ← operand
  leftOperands op operand start (← remaining) first

/-! ### Parts of brackets -/

def atNamed : Reader Bool := do
  match ← peek, ← peekSecond with
  | some (.name _), some (.symbol .walrus) => return true
  | _, _ => return false

def namedExpression (n : Nested) : Reader Expr := do
  if ← atNamed then
    let start ← here
    let id ← word
    advance
    let value ← n.expression
    return named start (name start id .store) value
  else n.expression

def starredPart (inner : Reader Expr) : Reader Expr := do
  let start ← here
  symbol .star
  let value ← inner
  return starred start value .load

def starExpression (n : Nested) : Reader Expr := do
  if ← atSymbol .star then starredPart n.bitwiseOr else n.expression

def starNamed (n : Nested) : Reader Expr := do
  if ← atSymbol .star then starredPart n.bitwiseOr else namedExpression n

def tupled (part : Reader Expr) : Reader Expr := do
  let start ← here
  let (parts, trailing) ← commaSeparated part noMore
  match parts, trailing with
  | [e], false => return e
  | parts, _ => return tuple start parts .load

def starTarget (n : Nested) : Reader Expr := do
  let e ← if ← atSymbol .star then starredPart n.bitwiseOr else n.bitwiseOr
  match e.asTarget? .store with
  | some t => return t
  | none => fail

def starTargets (n : Nested) : Reader Expr := do
  let start ← here
  let (parts, trailing) ← commaSeparated (starTarget n) noMore
  match parts, trailing with
  | [e], false => return e
  | parts, _ => return tuple start parts .store

def connected (op : BoolOp) (k : Keyword) (operand : Reader Expr) : Reader Expr := do
  let start ← here
  let first ← operand
  let more ← many (optionalAfter (skipKeyword k) operand)
  return if more.isEmpty then first else bool start op (first :: more)

def clauses (n : Nested) : Reader (List (Bool × Expr × Expr × List Expr)) :=
  many do
    if (← atKeyword .for_) || (← atKeyword .async_) then
      let waits ← skipKeyword .async_
      keyword .for_
      let target ← starTargets n
      keyword .in_
      let iter ← n.disjunction
      let conditions ← many (optionalAfter (skipKeyword .if_) n.disjunction)
      return some (waits, target, iter, conditions)
    else return none

def atClause : Reader Bool := do return (← atKeyword .for_) || (← atKeyword .async_)

def comprehensionRest (n : Nested) (start : Position) (kind : ComprehensionKind)
    (made : List Expr) (close : Symbol) : Reader Expr := do
  let clauses ← clauses n
  symbol close
  return comprehension start kind made clauses

def isStarred : Expr → Bool
  | starred .. => true
  | _ => false

def yieldExpression (n : Nested) : Reader Expr := do
  let start ← here
  keyword .yield_
  if ← skipKeyword .from_ then return yieldFrom start (← n.expression)
  else if startsExpression (← peek) then
    let value ← tupled (starExpression n)
    return yield start (some value)
  else return yield start none

def itemsRest (n : Nested) (make : List Expr → Expr) (first : Expr) (close : Symbol) :
    Reader Expr := do
  let more ← furtherParts (starNamed n) noMore
  symbol close
  return make (first :: more)

def parenthesised (n : Nested) : Reader Expr := do
  let start ← here
  symbol .openParen
  if ← skipSymbol .closeParen then return tuple start [] .load
  if ← atKeyword .yield_ then
    let e ← yieldExpression n
    symbol .closeParen
    return e
  let first ← starNamed n
  if (← atClause) && !first.isStarred then comprehensionRest n start .generator [first] .closeParen
  else if ← atSymbol .comma then itemsRest n (tuple start · .load) first .closeParen
  else
    symbol .closeParen
    if first.isStarred then fail else return first

def bracketed (n : Nested) : Reader Expr := do
  let start ← here
  symbol .openBracket
  if ← skipSymbol .closeBracket then return list start [] .load
  let first ← starNamed n
  if (← atClause) && !first.isStarred then comprehensionRest n start .list [first] .closeBracket
  else itemsRest n (list start · .load) first .closeBracket

def dictEntry (n : Nested) : Reader (Option Expr × Expr) := do
  if ← skipSymbol .doubleStar then return (none, ← n.bitwiseOr)
  else
    let key ← n.expression
    symbol .colon
    let value ← n.expression
    return (some key, value)

def noEntry : Reader Bool := do
  return !((← atSymbol .doubleStar) || startsExpression (← peek))

def dictRest (n : Nested) (start : Position) (first : Option Expr × Expr) : Reader Expr := do
  let more ← furtherParts (dictEntry n) noEntry
  symbol .closeBrace
  let entries := first :: more
  return dict start (entries.map Prod.fst) (entries.map Prod.snd)

def braced (n : Nested) : Reader Expr := do
  let start ← here
  symbol .openBrace
  if ← skipSymbol .closeBrace then return dict start [] []
  if ← atSymbol .doubleStar then dictRest n start (← dictEntry n)
  else if (← atSymbol .star) || (← atNamed) then
    let first ← starNamed n
    if (← atClause) && !first.isStarred then comprehensionRest n start .set [first] .closeBrace
    else itemsRest n (set start) first .closeBrace
  else
    let first ← n.expression
    if ← skipSymbol .colon then
      let value ← n.expression
      if ← atClause then comprehensionRest n start .dict [first, value] .closeBrace
      else dictRest n start (some first, value)
    else if ← atClause then comprehensionRest n start .set [first] .closeBrace
    else itemsRest n (set start) first .closeBrace

/-! ### Atoms -/

/-- The expression in a field of a formatted string, which starts at a brace. -/
def ofText (n : Nested) (brace : Position) (text : List Char) : Option Expr := do
  if text.all fun c => isGap c || c == '\n' || c == '\r' then none
  else
    let ts ← tokensFrom brace ('(' :: text ++ [')'])
    let (e, rest) ← tupled (starExpression n) ts
    match rest with
    | [⟨.newline, _⟩] => some e
    | _ => none

def mergeTexts : List Expr → List Expr
  | [] => []
  | constant p (.str s) :: rest =>
    match mergeTexts rest with
    | constant _ (.str t) :: more => constant p (.str (s ++ t)) :: more
    | more => if s.isEmpty then more else constant p (.str s) :: more
  | e :: rest => e :: mergeTexts rest

mutual

def ofPiece (n : Nested) (start : Position) (brace : Nat → Position) (raw : Bool) :
    Piece → Option (List Expr)
  | .literal text => do
    let value ← stringValue ⟨raw, false, true⟩ text
    return [constant (some start) (.str (String.ofList value))]
  | .field left expr shown conversion layout => do
    let e ← ofText n (brace left) expr
    let layout ← ofLayout n start brace raw layout
    let before := match shown with
      | some text => [constant (some start) (.str (String.ofList text))]
      | none => []
    let conversion := if shown.isSome && layout.isNone && conversion.isNone then some .display
      else conversion
    return before ++ [formatted start e conversion layout]

def ofLayout (n : Nested) (start : Position) (brace : Nat → Position) (raw : Bool) :
    Option (List Piece) → Option (Option Expr)
  | none => some none
  | some pieces => do return some (joined start (mergeTexts (← ofPieces n start brace raw pieces)))

def ofPieces (n : Nested) (start : Position) (brace : Nat → Position) (raw : Bool) :
    List Piece → Option (List Expr)
  | [] => some []
  | p :: rest => do
    let first ← ofPiece n start brace raw p
    let more ← ofPieces n start brace raw rest
    return first ++ more

end

/-- The place in the content of a formatted string from which on `left` characters of it are
left. -/
def placeIn (p : Position) (lead : Nat) (content : List Char) (left : Nat) : Position :=
  positionAfter ⟨p.line, p.column + lead⟩ (content.take (content.length - left))

def strings (n : Nested) : Reader Expr := do
  let start ← here
  let parts ← many do
    match ← peek with
    | some (.text _) | some (.bytes _) | some (.formatted ..) =>
      let t ← look List.head?
      advance
      return some t
    | _ => return none
  let isBytes (t : Token) : Bool := match t.kind with
    | .bytes _ => true
    | _ => false
  let isFormatted (t : Token) : Bool := match t.kind with
    | .formatted .. => true
    | _ => false
  if parts.any isBytes then
    if parts.all isBytes then
      let value := parts.flatMap fun t => match t.kind with
        | .bytes cs => cs
        | _ => []
      return constant (some start) (.bytes (String.ofList value))
    else fail
  else if parts.any isFormatted then
    let pieces? := parts.mapM fun t => match t.kind with
      | .formatted raw lead content => do
        ofPieces n start (placeIn t.position lead content) raw (← Piece.ofContent raw content)
      | .text s => some [constant (some start) (.str s)]
      | _ => some []
    match pieces? with
    | some pieces => return joined start (mergeTexts pieces.flatten)
    | none => fail
  else
    let joined := String.join (parts.map fun t => match t.kind with
      | .text s => s
      | _ => "")
    return constant (some start) (.str joined)

def atom (n : Nested) : Reader Expr := do
  let start ← here
  match ← peek with
  | some (.name id) =>
    advance
    return name start id .load
  | some (.number v) =>
    advance
    return constant (some start) v
  | some (.keyword .true_) =>
    advance
    return constant (some start) (.bool true)
  | some (.keyword .false_) =>
    advance
    return constant (some start) (.bool false)
  | some (.keyword .none_) =>
    advance
    return constant (some start) .none
  | some (.symbol .ellipsis) =>
    advance
    return constant (some start) .ellipsis
  | some (.symbol .openParen) => parenthesised n
  | some (.symbol .openBracket) => bracketed n
  | some (.symbol .openBrace) => braced n
  | some (.text _) | some (.bytes _) | some (.formatted ..) => strings n
  | _ => fail

/-! ### Calls, fields, elements -/

/-- An argument of a call. -/
inductive Argument
  | positional (e : Expr)
  | keyword (pos : Position) (name : Option String) (e : Expr)

def argument (n : Nested) : Reader Argument := do
  let start ← here
  if ← skipSymbol .doubleStar then return .keyword start none (← n.expression)
  else if ← atSymbol .star then return .positional (← starredPart n.expression)
  else
    match ← peek, ← peekSecond with
    | some (.name id), some (.symbol .equals) =>
      advance
      advance
      return .keyword start (some id) (← n.expression)
    | _, _ => return .positional (← namedExpression n)

def orderly : (names unpacked : Bool) → List Argument → Bool
  | _, _, [] => true
  | names, unpacked, .positional (.starred ..) :: rest => !unpacked && orderly names unpacked rest
  | names, unpacked, .positional _ :: rest => !names && !unpacked && orderly names unpacked rest
  | _, unpacked, .keyword _ (some _) _ :: rest => orderly true unpacked rest
  | names, _, .keyword _ none _ :: rest => orderly names true rest

def noArgument : Reader Bool := atSymbol .closeParen

def argumentsAfter (n : Nested) (first : Argument) : Reader (List Argument) := do
  let more ← furtherParts (argument n) noArgument
  symbol .closeParen
  let args := first :: more
  if orderly false false args then return args else fail

def arguments (n : Nested) : Reader (List Argument) := do
  if ← skipSymbol .closeParen then return []
  else argumentsAfter n (← argument n)

def positionals (args : List Argument) : List Expr :=
  args.filterMap fun a => match a with
    | .positional e => some e
    | _ => none

def Argument.isPlain : Argument → Bool
  | .positional e => !e.isStarred
  | .keyword .. => false

def callArguments (n : Nested) : Reader (List Argument) := do
  let start ← here
  symbol .openParen
  if ← skipSymbol .closeParen then return []
  let first ← argument n
  if (← atClause) && first.isPlain then
    let made := positionals [first]
    return [.positional (← comprehensionRest n start .generator made .closeParen)]
  else argumentsAfter n first

def sliceStep (n : Nested) : Reader (Option Expr) := do
  if ← skipSymbol .colon then optionalAfter atExpression n.expression else return none

def sliceRest (n : Nested) (start : Position) (lower : Option Expr) : Reader Expr := do
  symbol .colon
  let upper ← optionalAfter atExpression n.expression
  let step ← sliceStep n
  return slice start lower upper step

def sliceItem (n : Nested) : Reader Expr := do
  let start ← here
  if ← atSymbol .colon then sliceRest n start none
  else if ← atSymbol .star then starredPart n.expression
  else if ← atNamed then namedExpression n
  else
    let lower ← n.expression
    if ← atSymbol .colon then sliceRest n start (some lower) else return lower

def slices (n : Nested) : Reader Expr := do
  let start ← here
  let (parts, trailing) ← commaSeparated (sliceItem n) (atSymbol .closeBracket)
  match parts, trailing with
  | [e], false => return if e.isStarred then tuple start [e] .load else e
  | parts, _ => return tuple start parts .load

def trailers (n : Nested) (start : Position) : (fuel : Nat) → Expr → Reader Expr
  | 0, e => return e
  | fuel + 1, e => do
    match ← peek with
    | some (.symbol .dot) =>
      advance
      let attr ← word
      trailers n start fuel (field start e attr .load)
    | some (.symbol .openParen) =>
      let args ← callArguments n
      let keywords := args.filterMap fun a => match a with
        | .keyword _ id value => some (id, value)
        | _ => none
      trailers n start fuel (call start e (positionals args) keywords)
    | some (.symbol .openBracket) =>
      advance
      let index ← slices n
      symbol .closeBracket
      trailers n start fuel (subscript start e index .load)
    | _ => return e

def primary (n : Nested) : Reader Expr := do
  let start ← here
  let e ← atom n
  trailers n start (← remaining) e

def awaitPrimary (n : Nested) : Reader Expr := do
  let start ← here
  if ← skipKeyword .await_ then return await start (← primary n)
  else primary n

/-- Signs and powers; a power binds tighter than a sign on its left. -/
def factor (n : Nested) : Reader Expr := do
  let start ← here
  match unaryOp (← peek) with
  | some o =>
    advance
    return unary start o (← n.factor)
  | none =>
    let base ← awaitPrimary n
    if ← skipSymbol .doubleStar then return binary start .pow base (← n.factor)
    else return base

def bitwiseOr (n : Nested) : Reader Expr :=
  leftGrouped bitOrOp (leftGrouped bitXorOp (leftGrouped bitAndOp (leftGrouped shiftOp
    (leftGrouped sumOp (leftGrouped productOp (factor n))))))

/-! ### Comparisons and conditions -/

def compareOp : Reader (Option CompareOp) := do
  match ← peek with
  | some (.symbol .equal) =>
    advance
    return some .eq
  | some (.symbol .notEqual) =>
    advance
    return some .notEq
  | some (.symbol .less) =>
    advance
    return some .lt
  | some (.symbol .lessEqual) =>
    advance
    return some .ltE
  | some (.symbol .greater) =>
    advance
    return some .gt
  | some (.symbol .greaterEqual) =>
    advance
    return some .gtE
  | some (.keyword .in_) =>
    advance
    return some .member
  | some (.keyword .not_) =>
    advance
    keyword .in_
    return some .notMember
  | some (.keyword .is_) =>
    advance
    if ← skipKeyword .not_ then return some .notSame else return some .same
  | _ => return none

def comparison (n : Nested) : Reader Expr := do
  let start ← here
  let first ← bitwiseOr n
  let more ← many do
    match ← compareOp with
    | some o => return some (o, ← bitwiseOr n)
    | none => return none
  return if more.isEmpty then first else compare start first (more.map Prod.fst) (more.map Prod.snd)

def inversion (n : Nested) : Reader Expr := do
  let start ← here
  if ← skipKeyword .not_ then return unary start .logicalNot (← n.inversion)
  else comparison n

def disjunction (n : Nested) : Reader Expr :=
  connected .disj .or_ (connected .conj .and_ (inversion n))

/-! ### Functions without a name -/

/-- A part of a list of parameters. -/
inductive ParamItem
  | slash
  | star (param : Option Param)
  | doubleStar (param : Param)
  | plain (param : Param) (default : Option Expr)

/-- The next part of a list of parameters; `type` reads what may follow a name, and `starType` what
may follow the name of further positional arguments. -/
def paramItem (n : Nested) (type starType : Reader (Option Expr)) : Reader ParamItem := do
  if ← skipSymbol .slash then return .slash
  else if ← skipSymbol .star then
    if ← atSymbol .comma then return .star none
    else
      let start ← here
      let name ← word
      return .star (some ⟨start, name, ← starType⟩)
  else if ← skipSymbol .doubleStar then
    let start ← here
    let name ← word
    return .doubleStar ⟨start, name, ← type⟩
  else
    let start ← here
    let name ← word
    let param : Param := ⟨start, name, ← type⟩
    if ← skipSymbol .equals then return .plain param (some (← n.expression))
    else return .plain param none

def keywordParams : List ParamItem → Option (List (Param × Option Expr) × Option Param)
  | [] => some ([], none)
  | [.doubleStar p] => some ([], some p)
  | .plain p d :: rest => do
    let (params, last) ← keywordParams rest
    return ((p, d) :: params, last)
  | _ => none

def defaultsLast : (seen : Bool) → List (Param × Option Expr) → Bool
  | _, [] => true
  | seen, (_, d) :: rest => (d.isSome || !seen) && defaultsLast (seen || d.isSome) rest

def leadingParams : List ParamItem →
    Option (Option (List (Param × Option Expr)) × List (Param × Option Expr) × List ParamItem)
  | .plain p d :: rest => do
    let (only, params, after) ← leadingParams rest
    match only with
    | some before => return (some ((p, d) :: before), params, after)
    | none => return (none, (p, d) :: params, after)
  | .slash :: rest => do
    let (only, params, after) ← leadingParams rest
    match only with
    | some _ => none
    | none => return (some [], params, after)
  | rest => some (none, [], rest)

def restParams : List ParamItem → Option (Option Param × List (Param × Option Expr) × Option Param)
  | .star star :: more => do
    let (byName, last) ← keywordParams more
    if star.isNone && byName.isEmpty then none else some (star, byName, last)
  | more => do
    let (byName, last) ← keywordParams more
    if byName.isEmpty then some (none, [], last) else none

def paramsOf (items : List ParamItem) : Option Params := do
  let (only, plain, rest) ← leadingParams items
  let before := only.getD []
  if only.isSome && before.isEmpty then none
  else if !defaultsLast false (before ++ plain) then none
  else
    let (star, byName, last) ← restParams rest
    return {
      positionalOnly := before.map Prod.fst
      positional := plain.map Prod.fst
      rest := star
      keywordOnly := byName.map Prod.fst
      keywordDefaults := byName.map Prod.snd
      restKeywords := last
      defaults := (before ++ plain).filterMap Prod.snd }

def params (n : Nested) (type starType : Reader (Option Expr)) (close : Symbol) : Reader Params :=
  do
  let items ← if ← atSymbol close then pure []
    else Prod.fst <$> commaSeparated (paramItem n type starType) (atSymbol close)
  if ← atSymbol close then
    match paramsOf items with
    | some ps => return ps
    | none => fail
  else fail

def lambdaExpression (n : Nested) : Reader Expr := do
  let start ← here
  keyword .lambda_
  let ps ← params n (pure none) (pure none) .colon
  symbol .colon
  let body ← n.expression
  let names : ParamNames :=
    { positionalOnly := ps.positionalOnly.map Param.name
      positional := ps.positional.map Param.name
      rest := ps.rest.map Param.name
      keywordOnly := ps.keywordOnly.map Param.name
      restKeywords := ps.restKeywords.map Param.name }
  return lambda start names ps.keywordDefaults ps.defaults body

def expression (n : Nested) : Reader Expr := do
  if ← atKeyword .lambda_ then lambdaExpression n
  else
    let start ← here
    let body ← disjunction n
    if ← skipKeyword .if_ then
      let test ← disjunction n
      keyword .else_
      let orelse ← n.expression
      return conditional start test body orelse
    else return body

end Expr

namespace Nested

def next (n : Nested) : Nested :=
  ⟨Expr.expression n, Expr.disjunction n, Expr.inversion n, Expr.bitwiseOr n, Expr.factor n⟩

def atDepth : Nat → Nested
  | 0 => none
  | depth + 1 => next (atDepth depth)

end Nested

def Token.isNewline (t : Token) : Bool :=
  match t.kind with
  | .newline => true
  | _ => false

def readExpression (text : List Char) : Option Expr := do
  let ts ← tokens text
  let (e, rest) ← Expr.tupled (Nested.atDepth (text.length + 2)).expression ts
  if rest.all Token.isNewline then return e else Option.none

end DataDiagram.Source
