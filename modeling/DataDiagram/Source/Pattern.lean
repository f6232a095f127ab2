import DataDiagram.Source.Expression
/-!
# Reading patterns

The patterns of a match statement.  The language has no meaning for them, so that they are only told
from what is no pattern.
-/

namespace DataDiagram.Source.Pattern

open Reader

def isImaginary : Datum → Bool
  | .complex _ => true
  | _ => false

def number : Reader Datum := do
  match ← peek with
  | some (.number v) =>
    advance
    return v
  | _ => fail

def numeric : Reader Unit := do
  let _ ← skipSymbol .minus
  let first ← number
  if (← skipSymbol .plus) || (← skipSymbol .minus) then
    let second ← number
    if !isImaginary first && isImaginary second then pure () else fail
  else pure ()

def text : Reader Unit := do
  let _ ← many do
    match ← peek with
    | some (.text _) | some (.bytes _) | some (.formatted ..) =>
      advance
      return some ()
    | _ => return none

def capture : Reader Unit := do
  let id ← word
  if id == "_" || (← atSymbol .dot) || (← atSymbol .openParen) || (← atSymbol .equals) then fail

def dotted : Reader Bool := do
  let parts ← many (optionalAfter (skipSymbol .dot) word)
  return !parts.isEmpty

def maybeStar (pattern : Reader Unit) : Reader Bool := do
  if ← skipSymbol .star then
    if ← isNext (.name "_") then advance else capture
    return true
  else
    pattern
    return false

def sequence (pattern : Reader Unit) (close : Symbol) : Reader Unit := do
  if ← skipSymbol close then pure ()
  else
    let _ ← commaSeparated (maybeStar pattern) (atSymbol close)
    symbol close

def parenthesised (pattern : Reader Unit) : Reader Unit := do
  if ← skipSymbol .closeParen then pure ()
  else
    let (parts, trailing) ← commaSeparated (maybeStar pattern) (atSymbol .closeParen)
    symbol .closeParen
    match parts, trailing with
    | [true], false => fail
    | _, _ => pure ()

def entry (pattern : Reader Unit) : Reader Bool := do
  if ← skipSymbol .doubleStar then
    capture
    return true
  else
    match ← peek with
    | some (.number _) | some (.symbol .minus) => numeric
    | some (.text _) | some (.bytes _) | some (.formatted ..) => text
    | some (.keyword .none_) | some (.keyword .true_) | some (.keyword .false_) => advance
    | some (.name _) =>
      advance
      if ← dotted then pure () else fail
    | _ => fail
    symbol .colon
    pattern
    return false

def mapping (pattern : Reader Unit) : Reader Unit := do
  if ← skipSymbol .closeBrace then pure ()
  else
    let (entries, _) ← commaSeparated (entry pattern) (atSymbol .closeBrace)
    symbol .closeBrace
    if entries.dropLast.any id then fail

def classArgument (pattern : Reader Unit) : Reader Bool := do
  match ← peek, ← peekSecond with
  | some (.name _), some (.symbol .equals) =>
    advance
    advance
    pattern
    return true
  | _, _ =>
    pattern
    return false

def classArguments (pattern : Reader Unit) : Reader Unit := do
  if ← skipSymbol .closeParen then pure ()
  else
    let (args, _) ← commaSeparated (classArgument pattern) (atSymbol .closeParen)
    symbol .closeParen
    if (args.dropWhile fun named => !named).all id then pure () else fail

def closed (pattern : Reader Unit) : Reader Unit := do
  match ← peek with
  | some (.number _) | some (.symbol .minus) => numeric
  | some (.text _) | some (.bytes _) | some (.formatted ..) => text
  | some (.keyword .none_) | some (.keyword .true_) | some (.keyword .false_) => advance
  | some (.name _) =>
    advance
    let _ ← dotted
    if ← skipSymbol .openParen then classArguments pattern
    else if ← atSymbol .equals then fail
  | some (.symbol .openParen) =>
    advance
    parenthesised pattern
  | some (.symbol .openBracket) =>
    advance
    sequence pattern .closeBracket
  | some (.symbol .openBrace) =>
    advance
    mapping pattern
  | _ => fail

/-- Takes a pattern, at most `depth` patterns deep. -/
def pattern : (depth : Nat) → Reader Unit
  | 0 => fail
  | depth + 1 => do
    closed (pattern depth)
    let _ ← many do
      if ← skipSymbol .bar then
        closed (pattern depth)
        return some ()
      else return none
    if ← skipKeyword .as_ then capture

def patterns (depth : Nat) : Reader Unit := do
  let stop : Reader Bool := do return (← atSymbol .colon) || (← atKeyword .if_)
  let (parts, trailing) ← commaSeparated (maybeStar (pattern depth)) stop
  match parts, trailing with
  | [true], false => fail
  | _, _ => pure ()

end DataDiagram.Source.Pattern
