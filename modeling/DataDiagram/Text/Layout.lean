import DataDiagram.ErrorKind
import DataDiagram.Text.Numeral
import DataDiagram.Text.Surrogate
/-!
# Layouts

A layout says how a value is written: a fill character and a side, a sign, a width, a separator of
thousands, a precision and a code for the form.  `>8.3f` is one.
-/

namespace DataDiagram.Text

/-- Why a value cannot be laid out. -/
inductive LayoutError
  | tooManyDigits
  | malformed (layout kind : String)
  | missingPrecision
  | twoSeparators
  | separatorWith (separator code : Char)
  | unknownCode (code : Char) (kind : String)
  | noLayout (kind : String)
  | tooWide
  | textSign
  | textSpace
  | textNegativeZero
  | textAlternate
  | textPadding
  | integerPrecision
  | integerNegativeZero
  | characterSign
  | characterAlternate
  | characterRange
  | characterTooLarge
  | precisionTooLarge
  | longInteger (message : String)
  | largeInteger (message : String)
  deriving DecidableEq

namespace LayoutError

def codeText (c : Char) : String :=
  if 32 < c.toNat && c.toNat < 128 then String.singleton c
  else "\\x" ++ String.ofList (Nat.toDigits 16 (codeOf c))

def message : LayoutError → String
  | tooManyDigits => "Too many decimal digits in format string"
  | malformed layout kind => s!"Invalid format specifier '{layout}' for object of type '{kind}'"
  | missingPrecision => "Format specifier missing precision"
  | twoSeparators => "Cannot specify both ',' and '_'."
  | separatorWith separator code => s!"Cannot specify '{separator}' with '{codeText code}'."
  | unknownCode code kind => s!"Unknown format code '{codeText code}' for object of type '{kind}'"
  | noLayout kind => s!"unsupported format string passed to {kind}.__format__"
  | tooWide => ""
  | textSign => "Sign not allowed in string format specifier"
  | textSpace => "Space not allowed in string format specifier"
  | textNegativeZero => "Negative zero coercion (z) not allowed in string format specifier"
  | textAlternate => "Alternate form (#) not allowed in string format specifier"
  | textPadding => "'=' alignment not allowed in string format specifier"
  | integerPrecision => "Precision not allowed in integer format specifier"
  | integerNegativeZero => "Negative zero coercion (z) not allowed in integer format specifier"
  | characterSign => "Sign not allowed with integer format specifier 'c'"
  | characterAlternate => "Alternate form (#) not allowed with integer format specifier 'c'"
  | characterRange => "%c arg not in range(0x110000)"
  | characterTooLarge => "Python int too large to convert to C long"
  | precisionTooLarge => "precision too big"
  | longInteger message => message
  | largeInteger message => message

def kind : LayoutError → ErrorKind
  | noLayout _ => .type
  | tooWide => .memory
  | characterRange | characterTooLarge | largeInteger _ => .overflow
  | _ => .value

end LayoutError

/-- Where a value stands in a wider room. -/
inductive Alignment
  | left
  | right
  | center
  | padding
  deriving DecidableEq

/-- A layout. -/
structure Layout where
  fill : Char
  side : Alignment
  sign : Option Char
  negativeZero : Bool
  alternate : Bool
  width : Option Nat
  separator : Option Char
  precision : Option Nat
  code : Option Char
  deriving DecidableEq

/-! ### Reading -/

def maxFieldNumber : Nat := Nat.pow 2 63 - 1

def boundedNumber? (digits : List Char) : Except LayoutError (Option Nat) :=
  match decimalNumber? digits with
  | none => .ok none
  | some n => if maxFieldNumber < n then .error .tooManyDigits else .ok (some n)

def alignment? : Char → Option Alignment
  | '<' => some .left
  | '>' => some .right
  | '^' => some .center
  | '=' => some .padding
  | _ => none

def scanAlignment : List Char → Option Char × Option Alignment × List Char
  | a :: b :: rest =>
    match alignment? b with
    | some side => (some a, some side, rest)
    | none =>
      match alignment? a with
      | some side => (none, some side, b :: rest)
      | none => (none, none, a :: b :: rest)
  | [a] =>
    match alignment? a with
    | some side => (none, some side, [])
    | none => (none, none, [a])
  | [] => (none, none, [])

def scanWidth (layout : List Char) : Except LayoutError (Option Nat × List Char) := do
  let digits := layout.takeWhile fun c => (decimalValue? c).isSome
  return (← boundedNumber? digits, layout.drop digits.length)

/-- Drops `c` from the front, and says whether it was there. -/
def dropChar (c : Char) : List Char → Bool × List Char
  | [] => (false, [])
  | d :: rest => if d == c then (true, rest) else (false, d :: rest)

def scanSign : List Char → Option Char × List Char
  | '+' :: rest => (some '+', rest)
  | '-' :: rest => (some '-', rest)
  | ' ' :: rest => (some ' ', rest)
  | rest => (none, rest)

def scanSeparator (layout : List Char) : Except LayoutError (Option Char × List Char) := do
  let (comma, rest) := dropChar ',' layout
  let (underscore, rest) := dropChar '_' rest
  if (comma && underscore) || (underscore && rest.head? == some ',') then throw .twoSeparators
  return (if comma then some ',' else if underscore then some '_' else none, rest)

def scanPrecision : List Char → Except LayoutError (Option Nat × List Char)
  | '.' :: rest => do
    match ← scanWidth rest with
    | (none, _) => throw .missingPrecision
    | (some precision, rest) => return (some precision, rest)
  | rest => .ok (none, rest)

def separable (separator : Char) : Option Char → Bool
  | none => true
  | some code =>
    ['d', 'e', 'f', 'g', 'E', 'G', '%', 'F', Char.ofNat 0].contains code ||
      (separator == '_' && ['b', 'o', 'x', 'X'].contains code)

def readLayout (kind : String) (side : Alignment) (code : Option Char) (layout : List Char) :
    Except LayoutError Layout := do
  let (fill, given, rest) := scanAlignment layout
  let (sign, rest) := scanSign rest
  let (negativeZero, rest) := dropChar 'z' rest
  let (alternate, rest) := dropChar '#' rest
  let (zeros, rest) := if fill.isNone then dropChar '0' rest else (false, rest)
  let padded := if zeros && side == .right then .padding else side
  let (width, rest) ← scanWidth rest
  let (separator, rest) ← scanSeparator rest
  let (precision, rest) ← scanPrecision rest
  let code ← match rest with
    | [] => pure code
    | [c] => pure (some c)
    | _ => throw (.malformed (String.ofList layout) kind)
  if let some c := separator then
    if !separable c code then throw (.separatorWith c (code.getD 's'))
  return {
    fill := fill.getD (if zeros then '0' else ' ')
    side := given.getD padded
    sign, negativeZero, alternate, width, separator, precision, code }

/-! ### Writing -/

namespace Layout

def maxWidth : Nat := Nat.pow 10 9

def place (l : Layout) (before text : List Char) : Except LayoutError (List Char) :=
  let room := l.width.getD 0 - before.length - text.length
  if maxWidth < room then .error .tooWide
  else
    let gap (n : Nat) : List Char := List.replicate n l.fill
    .ok (match l.side with
      | .left => before ++ text ++ gap room
      | .right => gap room ++ before ++ text
      | .center => gap (room / 2) ++ before ++ text ++ gap (room - room / 2)
      | .padding => before ++ gap room ++ text)

def text (l : Layout) (s : List Char) : Except LayoutError (List Char) := do
  match l.code with
  | none | some 's' => pure ()
  | some c => throw (.unknownCode c "str")
  match l.sign with
  | some ' ' => throw .textSpace
  | some _ => throw .textSign
  | none => pure ()
  if l.negativeZero then throw .textNegativeZero
  if l.alternate then throw .textAlternate
  if l.side == .padding then throw .textPadding
  l.place [] (match l.precision with
    | none => s
    | some n => s.take n)

end Layout

def layOut (s layout : List Char) : Except LayoutError (List Char) :=
  if layout.isEmpty then .ok s else do (← readLayout "str" .left (some 's') layout).text s

end DataDiagram.Text
