import DataDiagram.Datum
import DataDiagram.Text.CharacterName
import DataDiagram.Text.Numeral
/-!
# Literals

Numbers and strings as they are written in a source text.
-/

namespace DataDiagram.Source

/-- Whether a character can go on a name: letters, digits, the underscore, all beyond ASCII. -/
def isNameChar (c : Char) : Bool := c.isAlphanum || c == '_' || 128 ≤ c.toNat

def hexValue? (c : Char) : Option Nat :=
  if '0' ≤ c && c ≤ '9' then some (c.toNat - '0'.toNat)
  else if 'a' ≤ c && c ≤ 'f' then some (c.toNat - 'a'.toNat + 10)
  else if 'A' ≤ c && c ≤ 'F' then some (c.toNat - 'A'.toNat + 10)
  else none

def isDigitOf (base : Nat) (c : Char) : Bool :=
  match hexValue? c with
  | some d => d < base
  | none => false

def digitsValue (base : Nat) (digits : List Char) : Nat :=
  digits.foldl (fun n c => n * base + (hexValue? c).getD 0) 0

/-- The digits at the start of a text, and what follows them.  Single underscores may stand between
digits; an underscore that no digit follows is an error. -/
def digitRun (base : Nat) : List Char → Option (List Char × List Char)
  | [] => some ([], [])
  | '_' :: c :: rest =>
    if isDigitOf base c then digitRun base (c :: rest) else none
  | c :: rest =>
    if c == '_' then none
    else if isDigitOf base c then do
      let (digits, after) ← digitRun base rest
      return (c :: digits, after)
    else some ([], c :: rest)

/-- Whether a number may end before a text: no name goes on there, other than one of a few words
that can follow a number. -/
def endsNumber : List Char → Bool
  | 'a' :: 'n' :: 'd' :: _ | 'e' :: 'l' :: 's' :: 'e' :: _ | 'f' :: 'o' :: 'r' :: _
  | 'i' :: 'f' :: _ | 'i' :: 'n' :: _ | 'i' :: 's' :: _ | 'o' :: 'r' :: _
  | 'n' :: 'o' :: 't' :: _ => true
  | c :: _ => !isNameChar c
  | [] => true

def basedNumber (base : Nat) (cs : List Char) : Option (Datum × List Char) := do
  let (digits, rest) ← digitRun base cs
  let beyond := match rest with
    | c :: _ => c.isDigit
    | [] => false
  if digits.isEmpty || beyond || !endsNumber rest then none
  else return (.int (digitsValue base digits), rest)

def exponentPart : List Char → Option (Option Int × List Char)
  | e :: rest =>
    if e == 'e' || e == 'E' then
      match rest with
      | '+' :: d :: more =>
        if d.isDigit then do
          let (digits, after) ← digitRun 10 (d :: more)
          return (some (digitsValue 10 digits), after)
        else none
      | '-' :: d :: more =>
        if d.isDigit then do
          let (digits, after) ← digitRun 10 (d :: more)
          return (some (-(digitsValue 10 digits : Int)), after)
        else none
      | d :: more =>
        if d.isDigit then do
          let (digits, after) ← digitRun 10 (d :: more)
          return (some (digitsValue 10 digits), after)
        else some (none, e :: rest)
      | [] => some (none, [e])
    else some (none, e :: rest)
  | [] => some (none, [])

def decimalNumber (whole : List Char) (point : Bool) (fraction cs : List Char) :
    Option (Datum × List Char) := do
  let (exponent, rest) ← exponentPart cs
  let scaled : Binary64 :=
    .ofDecimal false (digitsValue 10 (whole ++ fraction)) (exponent.getD 0 - fraction.length)
  match rest with
  | 'j' :: after | 'J' :: after =>
    if endsNumber after then return (.complex ⟨.zero false, scaled⟩, after) else none
  | rest =>
    if !endsNumber rest then none
    else if point || exponent.isSome then return (.float scaled, rest)
    else if whole.head? == some '0' && whole.any (· != '0') then none
    else if Datum.maxDigits < whole.length then none
    else return (.int (digitsValue 10 whole), rest)

def scanNumber : List Char → Option (Datum × List Char)
  | '0' :: 'x' :: rest | '0' :: 'X' :: rest => basedNumber 16 rest
  | '0' :: 'o' :: rest | '0' :: 'O' :: rest => basedNumber 8 rest
  | '0' :: 'b' :: rest | '0' :: 'B' :: rest => basedNumber 2 rest
  | '.' :: rest => do
    let (fraction, after) ← digitRun 10 rest
    decimalNumber [] true fraction after
  | cs => do
    let (whole, after) ← digitRun 10 cs
    match after with
    | '.' :: d :: rest =>
      if d.isDigit then do
        let (fraction, more) ← digitRun 10 (d :: rest)
        decimalNumber whole true fraction more
      else decimalNumber whole true [] (d :: rest)
    | ['.'] => decimalNumber whole true [] []
    | after => decimalNumber whole false [] after

/-- The letters before the quote of a string. -/
structure StringMode where
  raw : Bool
  bytes : Bool
  formatted : Bool
  deriving DecidableEq

def isQuote (c : Char) : Bool := c == '\'' || c == '"'

def stringMode? : List Char → Option (StringMode × List Char)
  | q :: rest =>
    if isQuote q then some (⟨false, false, false⟩, q :: rest)
    else
      match rest with
      | q' :: more =>
        if isQuote q' then
          match q.toLower with
          | 'r' => some (⟨true, false, false⟩, rest)
          | 'b' => some (⟨false, true, false⟩, rest)
          | 'f' => some (⟨false, false, true⟩, rest)
          | 'u' => some (⟨false, false, false⟩, rest)
          | _ => none
        else
          match more with
          | q'' :: _ =>
            if isQuote q'' then
              match q.toLower, q'.toLower with
              | 'r', 'b' | 'b', 'r' => some (⟨true, true, false⟩, more)
              | 'r', 'f' | 'f', 'r' => some (⟨true, false, true⟩, more)
              | _, _ => none
            else none
          | [] => none
      | [] => none
  | [] => none

/-- The content of a string up to its end, and what follows it.  A backslash takes the next
character with it. -/
def stringBody (quote : Char) (long : Bool) : List Char → Option (List Char × List Char)
  | [] => none
  | '\\' :: c :: rest => do
    let (body, after) ← stringBody quote long rest
    return ('\\' :: c :: body, after)
  | c :: rest =>
    if long then
      if c == quote && rest.take 2 == [quote, quote] then some ([], rest.drop 2)
      else do
        let (body, after) ← stringBody quote long rest
        return (c :: body, after)
    else if c == quote then some ([], rest)
    else if c == '\n' then none
    else do
      let (body, after) ← stringBody quote long rest
      return (c :: body, after)

def scanString : List Char → Option (List Char × List Char)
  | a :: b :: c :: rest =>
    if a == b && b == c then stringBody a true rest
    else if a == b then some ([], c :: rest)
    else stringBody a false (b :: c :: rest)
  | [a, b] => if a == b then some ([], []) else none
  | _ => none

/-- The number that exactly `count` hexadecimal digits spell, and what follows them. -/
def hexEscape (count : Nat) (cs : List Char) : Option (Nat × List Char) :=
  let digits := cs.take count
  if digits.length == count && digits.all (isDigitOf 16) then
    some (digitsValue 16 digits, cs.drop count)
  else none

def namedEscape : List Char → Option (Char × List Char)
  | '{' :: rest =>
    match rest.dropWhile (· != '}') with
    | _ :: after => do
      let code ← Text.CharacterName.find? (String.ofList (rest.takeWhile (· != '}')))
      return (Text.charOfCode code, after)
    | [] => none
  | _ => none

/-- A string without its escapes.  In bytes the escapes by number beyond a byte stand for
themselves. -/
def unescape (bytes : Bool) : (fuel : Nat) → List Char → Option (List Char)
  | 0, _ => some []
  | _ + 1, [] => some []
  | fuel + 1, '\\' :: c :: rest => do
    let put (d : Char) (after : List Char) : Option (List Char) := do
      return d :: (← unescape bytes fuel after)
    match c with
    | '\n' => unescape bytes fuel rest
    | '\\' => put '\\' rest
    | '\'' => put '\'' rest
    | '"' => put '"' rest
    | 'a' => put '\x07' rest
    | 'b' => put '\x08' rest
    | 'f' => put '\x0c' rest
    | 'n' => put '\n' rest
    | 'r' => put '\r' rest
    | 't' => put '\t' rest
    | 'v' => put '\x0b' rest
    | 'x' => do
      let (n, after) ← hexEscape 2 rest
      put (Text.charOfCode n) after
    | c =>
      if isDigitOf 8 c then
        let digits := c :: (rest.take 2).takeWhile (isDigitOf 8)
        let n := digitsValue 8 digits
        put (Text.charOfCode (if bytes then n % 256 else n)) (rest.drop (digits.length - 1))
      else if bytes then do
        let more ← unescape bytes fuel rest
        return '\\' :: c :: more
      else
        match c with
        | 'u' => do
          let (n, after) ← hexEscape 4 rest
          put (Text.charOfCode n) after
        | 'U' => do
          let (n, after) ← hexEscape 8 rest
          if n ≤ 0x10FFFF then put (Text.charOfCode n) after else none
        | 'N' => do
          let (d, after) ← namedEscape rest
          put d after
        | c => do
          let more ← unescape bytes fuel rest
          return '\\' :: c :: more
  | fuel + 1, c :: rest => do return c :: (← unescape bytes fuel rest)

def stringValue (mode : StringMode) (content : List Char) : Option (List Char) :=
  if mode.bytes && content.any (128 ≤ ·.toNat) then none
  else if mode.raw then some content
  else unescape mode.bytes content.length content

end DataDiagram.Source
