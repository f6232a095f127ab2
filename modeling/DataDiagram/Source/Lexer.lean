import DataDiagram.Source.Literal
import DataDiagram.Source.Token
import DataDiagram.Text.NormalForm
/-!
# From text to tokens

A source text is cut into tokens.  Within brackets the ends of lines count for nothing; outside of
them, they end logical lines, and the blanks that a line starts with show how deep it is nested.
-/

namespace DataDiagram.Source

def normalLines : List Char → List Char
  | [] => ['\n']
  | '\r' :: '\n' :: rest => '\n' :: (if rest.isEmpty then [] else normalLines rest)
  | c :: rest =>
    let d := if c == '\r' then '\n' else c
    d :: (if rest.isEmpty && d == '\n' then [] else normalLines rest)

def positionAfter (p : Position) (cs : List Char) : Position :=
  cs.foldl (fun p c =>
    if c == '\n' then ⟨p.line + 1, 0⟩ else ⟨p.line, p.column + c.utf8Size⟩) p

/-- What has been read of a text, and what is still open. -/
structure LexState where
  rest : List Char
  position : Position
  /-- The depths of the blocks that are open, each in two measures: with wide tabs, and with tabs
  that count as one blank. -/
  indents : List (Nat × Nat)
  brackets : List Symbol

namespace LexState

def start (text : List Char) (p : Position) : LexState := ⟨text, p, [], []⟩

def advance (s : LexState) (rest : List Char) : LexState :=
  { s with
    rest
    position := positionAfter s.position (s.rest.take (s.rest.length - rest.length)) }

def depth (s : LexState) : Nat × Nat := s.indents.headD (0, 0)

end LexState

/-- The blanks at the start of a line. -/
structure Indentation where
  depth : Nat × Nat
  /-- The depth at the first backslash that joins the line to the next one, if it is not zero. -/
  joined : Nat
  rest : List Char

/-- The blanks at the start of a line.  A form feed starts counting anew. -/
def indentation (depth : Nat × Nat) (joined : Nat) : List Char → Option Indentation
  | ' ' :: rest => indentation (depth.1 + 1, depth.2 + 1) joined rest
  | '\t' :: rest => indentation ((depth.1 / 8 + 1) * 8, depth.2 + 1) joined rest
  | '\x0c' :: rest => indentation (0, 0) joined rest
  | '\\' :: '\n' :: c :: rest =>
    indentation depth (if joined == 0 then depth.1 else joined) (c :: rest)
  | '\\' :: _ => none
  | rest => some ⟨depth, joined, rest⟩

def maxIndents : Nat := 99

def maxBrackets : Nat := 200

/-- Closes the blocks that are deeper than a line: how many there are, and those that stay open. -/
def closeBlocks (depth : Nat) : List (Nat × Nat) → Nat × List (Nat × Nat)
  | [] => (0, [])
  | d :: rest =>
    if depth < d.1 then
      let (n, left) := closeBlocks depth rest
      (n + 1, left)
    else (0, d :: rest)

def blockMarks (indents : List (Nat × Nat)) (depth : Nat × Nat) :
    Option (List TokenKind × List (Nat × Nat)) :=
  let current := indents.headD (0, 0)
  if depth.1 == current.1 then
    if depth.2 == current.2 then some ([], indents) else none
  else if current.1 < depth.1 then
    if maxIndents ≤ indents.length || depth.2 ≤ current.2 then none
    else some ([.indent], depth :: indents)
  else
    let (n, left) := closeBlocks depth.1 indents
    if left.headD (0, 0) == depth then some (List.replicate n .dedent, left) else none

def wordToken (word : List Char) : Option TokenKind :=
  match Keyword.ofString? (String.ofList word) with
  | some k => some (.keyword k)
  | none =>
    if word.all (·.toNat < 128) || Text.isIdentifier word then
      some (.name (String.ofList (Text.normalForm word)))
    else none

def stringToken (mode : StringMode) (lead : Nat) (content : List Char) : Option TokenKind :=
  if mode.formatted then some (.formatted mode.raw lead content)
  else do
    let value ← stringValue mode content
    return if mode.bytes then .bytes value else .text (String.ofList value)

def scanToken (cs : List Char) : Option (TokenKind × List Char) :=
  match stringMode? cs with
  | some (mode, body) => do
    let (content, rest) ← scanString body
    -- As many quotes stand before the content as after it.
    let quotes := (body.length - content.length - rest.length) / 2
    return (← stringToken mode (cs.length - body.length + quotes) content, rest)
  | none =>
    match cs with
    | '.' :: d :: _ =>
      if d.isDigit then do
        let (n, rest) ← scanNumber cs
        return (.number n, rest)
      else do
        let (s, rest) ← Symbol.split? cs
        return (.symbol s, rest)
    | c :: _ =>
      if c.isDigit then do
        let (n, rest) ← scanNumber cs
        return (.number n, rest)
      else if isNameChar c then do
        return (← wordToken (cs.takeWhile isNameChar), cs.dropWhile isNameChar)
      else do
        let (s, rest) ← Symbol.split? cs
        return (.symbol s, rest)
    | [] => none

def bracketsAfter (brackets : List Symbol) : TokenKind → Option (List Symbol)
  | .symbol s =>
    match s.closing? with
    | some c => if brackets.length < maxBrackets then some (c :: brackets) else none
    | none =>
      if s.isClosing then
        match brackets with
        | c :: rest => if c == s then some rest else none
        | [] => none
      else some brackets
  | _ => some brackets

def isGap (c : Char) : Bool := c == ' ' || c == '\t' || c == '\x0c'

/-- The tokens of a text.  `fresh` says whether a line starts here. -/
def scan : (fuel : Nat) → (fresh : Bool) → LexState → Option (List Token)
  | 0, _, _ => none
  | fuel + 1, true, s => do
    let i ← indentation (0, 0) 0 s.rest
    let next := s.advance i.rest
    match i.rest with
    | [] =>
      -- The blocks that are still open end on the last line; no line follows it.
      if s.brackets.isEmpty then
        return List.replicate s.indents.length ⟨.dedent, ⟨next.position.line - 1, 0⟩⟩
      else none
    | '#' :: rest => scan fuel true (next.advance ((rest.dropWhile (· != '\n')).drop 1))
    | '\n' :: rest => scan fuel true (next.advance rest)
    | _ =>
      if s.brackets.isEmpty then
        let depth := if i.joined == 0 then i.depth else (i.joined, i.joined)
        let (marks, indents) ← blockMarks s.indents depth
        let more ← scan fuel false { next with indents }
        return marks.map (⟨·, next.position⟩) ++ more
      else scan fuel false next
  | fuel + 1, false, s =>
    let next := s.advance (s.rest.dropWhile isGap)
    match next.rest with
    | [] => none
    | '\n' :: rest =>
      if s.brackets.isEmpty then do
        let more ← scan fuel true (next.advance rest)
        return ⟨.newline, next.position⟩ :: more
      else scan fuel true (next.advance rest)
    | '\\' :: '\n' :: c :: rest => scan fuel false (next.advance (c :: rest))
    | '#' :: rest => scan fuel false (next.advance (rest.dropWhile (· != '\n')))
    | cs => do
      let (kind, rest) ← scanToken cs
      let brackets ← bracketsAfter s.brackets kind
      let more ← scan fuel false { next.advance rest with brackets }
      return ⟨kind, next.position⟩ :: more

def tokensFrom (start : Position) (text : List Char) : Option (List Token) :=
  let normal := normalLines text
  scan (2 * normal.length + 2) true (.start normal start)

def tokens : List Char → Option (List Token) := tokensFrom ⟨1, 0⟩

end DataDiagram.Source
