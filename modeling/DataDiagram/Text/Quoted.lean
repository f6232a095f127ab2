import DataDiagram.Text.CharKind
import DataDiagram.Text.Surrogate
/-!
# Quoted texts

How a text is shown inside a displayed value: between quotes, with escapes for what does not stand
for itself.
-/

namespace DataDiagram.Text

def hexDigit (n : Nat) : Char :=
  if n < 10 then Char.ofNat (48 + n) else Char.ofNat (87 + n)

/-- The last `width` hexadecimal digits of `n`. -/
def hexDigits : (width : Nat) → (n : Nat) → List Char
  | 0, _ => []
  | width + 1, n => hexDigits width (n / 16) ++ [hexDigit (n % 16)]

def numericEscape (c : Char) : List Char :=
  let n := codeOf c
  if n < 0x100 then '\\' :: 'x' :: hexDigits 2 n
  else if n < 0x10000 then '\\' :: 'u' :: hexDigits 4 n
  else '\\' :: 'U' :: hexDigits 8 n

/-- How the character `c` is written between two `quote` marks. -/
def quotedChar (quote c : Char) : List Char :=
  if c == quote || c == '\\' then ['\\', c]
  else if c == '\n' then ['\\', 'n']
  else if c == '\r' then ['\\', 'r']
  else if c == '\t' then ['\\', 't']
  else if isPrintable c then [c]
  else numericEscape c

def quoteMark (s : List Char) : Char :=
  if s.contains '\'' && !s.contains '"' then '"' else '\''

def quoted (s : List Char) : List Char :=
  let quote := quoteMark s
  quote :: (s.flatMap (quotedChar quote) ++ [quote])

def quote (s : String) : String := String.ofList (quoted s.toList)

def quotedAscii (s : List Char) : List Char :=
  (quoted s).flatMap fun c => if c.toNat < 128 then [c] else numericEscape c

/-- Quoted names as a listing: `'a'`, `'a' and 'b'`, `'a', 'b', and 'c'`. -/
def listing : List String → String
  | [] => ""
  | [a] => quote a
  | [a, b] => quote a ++ " and " ++ quote b
  | names =>
    ", ".intercalate (names.dropLast.map quote) ++ ", and " ++ quote (names.getLast?.getD "")

/-- The letter that a noun ends with if it stands for a number of things. -/
def plural (count : Nat) : String := if count == 1 then "" else "s"

end DataDiagram.Text
