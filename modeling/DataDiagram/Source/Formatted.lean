import DataDiagram.Source.Literal
import DataDiagram.Source.Tree
/-!
# Formatted strings

A formatted string is literal text with expressions between braces.  An expression may be followed
by an equals sign, by a conversion and by a layout, in which there may be expressions again.
-/

namespace DataDiagram.Source

/-- A part of a formatted string.  From the brace of an expression on, so many characters of the
string are left as `left` says. -/
inductive Piece
  | literal (text : List Char)
  | field (left : Nat) (expr : List Char) (shown : Option (List Char))
      (conversion : Option Conversion)
    (layout : Option (List Piece))

namespace Piece

def literalPart (raw outer : Bool) : (fuel : Nat) → List Char → Option (List Char × List Char)
  | 0, _ => none
  | _ + 1, [] => some ([], [])
  | fuel + 1, '\\' :: c :: rest =>
    if raw then do
      let (text, after) ← literalPart raw outer fuel (c :: rest)
      return ('\\' :: text, after)
    else if c == 'N' && rest.head? == some '{' then
      let name := rest.takeWhile (· != '}')
      let after := (rest.dropWhile (· != '}')).drop 1
      do
        let (text, after) ← literalPart raw outer fuel after
        return ('\\' :: 'N' :: name ++ '}' :: text, after)
    else if c == '{' || c == '}' then do
      let (text, after) ← literalPart raw outer fuel (c :: rest)
      return ('\\' :: text, after)
    else do
      let (text, after) ← literalPart raw outer fuel rest
      return ('\\' :: c :: text, after)
  | fuel + 1, c :: rest =>
    if c == '{' || c == '}' then
      if outer && rest.head? == some c then do
        let (text, after) ← literalPart raw outer fuel (rest.drop 1)
        return (c :: text, after)
      else if outer && c == '}' then none
      else some ([], c :: rest)
    else do
      let (text, after) ← literalPart raw outer fuel rest
      return (c :: text, after)

def isComparison : Char → Char → Bool
  | '!', '=' | '=', '=' | '<', '=' | '>', '=' => true
  | _, _ => false

def closingOf? : Char → Option Char
  | '(' => some ')'
  | '[' => some ']'
  | '{' => some '}'
  | _ => none

def innerString (quote : Char) (long : Bool) : List Char → Option (List Char × List Char)
  | [] => none
  | c :: rest =>
    if c == '\\' then none
    else if c == quote && !long then some ([c], rest)
    else if c == quote && rest.take 2 == [quote, quote] then some ([c, c, c], rest.drop 2)
    else do
      let (body, after) ← innerString quote long rest
      return (c :: body, after)

/-- The text of an expression up to what ends it, and the text from there on.  `expected` holds the
closing brackets that are still to come. -/
def expressionPart : (fuel : Nat) → (expected : List Char) → List Char →
    Option (List Char × List Char)
  | 0, _, _ => none
  | _ + 1, _, [] => none
  | fuel + 1, expected, c :: rest =>
    let go (taken : List Char) (expected : List Char) (after : List Char) :
        Option (List Char × List Char) := do
      let (text, after) ← expressionPart fuel expected after
      return (taken ++ text, after)
    if c == '\\' || c == '#' then none
    else if isQuote c then do
      let long := rest.take 2 == [c, c]
      let opening := if long then [c, c, c] else [c]
      let (body, after) ← innerString c long (if long then rest.drop 2 else rest)
      go (opening ++ body) expected after
    else
      match closingOf? c with
      | some d => go [c] (d :: expected) rest
      | none =>
        if expected.isEmpty &&
          (c == '!' || c == ':' || c == '}' || c == '=' || c == '>' || c == '<')
        then
          match rest with
          | d :: more =>
            if isComparison c d then go [c, d] expected more
            else if c == '>' || c == '<' then go [c] expected rest
            else some ([], c :: rest)
          | [] => if c == '>' || c == '<' then none else some ([], [c])
        else if c == ')' || c == ']' || c == '}' then
          match expected with
          | d :: outer => if c == d then go [c] outer rest else none
          | [] => none
        else go [c] expected rest

def equalsPart : List Char → Option (List Char) × List Char
  | '=' :: rest =>
    let isSpace (c : Char) : Bool := c == ' ' || (9 ≤ c.toNat && c.toNat ≤ 13)
    (some ('=' :: rest.takeWhile isSpace), rest.dropWhile isSpace)
  | rest => (none, rest)

def conversionPart : List Char → Option (Option Conversion × List Char)
  | '!' :: 's' :: rest => some (some .print, rest)
  | '!' :: 'r' :: rest => some (some .display, rest)
  | '!' :: 'a' :: rest => some (some .ascii, rest)
  | '!' :: _ => none
  | rest => some (none, rest)

/-- The parts of a formatted string, and the text after them: nothing at the outermost level, a
closing brace in a layout.  Expressions nest twice at most. -/
def split (raw : Bool) : (fuel : Nat) → (level : Nat) → List Char → Option (List Piece × List Char)
  | 0, _, _ => none
  | fuel + 1, level, cs => do
    let (text, rest) ← literalPart raw (level == 0) (cs.length + 1) cs
    let head := if text.isEmpty then [] else [literal text]
    match rest with
    | '{' :: inner =>
      if 2 ≤ level then none
      else
        let (expr, rest) ← expressionPart (inner.length + 1) [] inner
        let (sign, rest) := equalsPart rest
        let (conversion, rest) ← conversionPart rest
        let (layout, rest) ← match rest with
          | ':' :: rest => do
            let (pieces, rest) ← split raw fuel (level + 1) rest
            some (some pieces, rest)
          | rest => some (none, rest)
        match rest with
        | '}' :: rest =>
          let (more, after) ← split raw fuel level rest
          return (head ++ field (inner.length + 1) expr (sign.map (expr ++ ·)) conversion
            layout :: more,
            after)
        | _ => none
    | rest => return (head, rest)

def ofContent (raw : Bool) (content : List Char) : Option (List Piece) := do
  let (pieces, rest) ← split raw (content.length + 1) 0 content
  if rest.isEmpty then return pieces else none

end Piece

end DataDiagram.Source
