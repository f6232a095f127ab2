import DataDiagram.Datum
import DataDiagram.Text.Layout
/-!
# Values in layouts

Texts, integers and numbers of double precision are written as a layout says.  No other value has
layouts.
-/

namespace DataDiagram

open Text (Layout LayoutError readLayout)

namespace Text.Layout

/-! ### Numbers -/

def groupedFrom (size : Nat) (separator : Char) :
    (fuel : Nat) → (least : Int) → List Char → List Char
  | 0, _, digits => digits
  | fuel + 1, least, digits =>
    let length : Int := min (size : Int) (max (max (digits.length : Int) least) 1)
    let group := digits.take length.toNat
    let zeros := List.replicate (length.toNat - group.length) '0'
    let rest := digits.drop length.toNat
    if rest.isEmpty && least - length ≤ 0 then group ++ zeros
    else group ++ zeros ++ separator :: groupedFrom size separator fuel (least - length - 1) rest

def grouped (l : Layout) (least : Nat) (digits : List Char) : List Char :=
  match l.separator with
  | none => digits
  | some separator =>
    let size := if [some 'b', some 'o', some 'x', some 'X'].contains l.code then 4 else 3
    (groupedFrom size separator (digits.length + least + 1) least digits.reverse).reverse

def signText (l : Layout) (negative : Bool) : List Char :=
  if negative then ['-']
  else
    match l.sign with
    | some '+' => ['+']
    | some ' ' => [' ']
    | _ => []

def number (l : Layout) (negative : Bool) (mark digits tail : List Char) :
    Except LayoutError (List Char) :=
  let before := l.signText negative ++ mark
  let least := if l.fill == '0' && l.side == .padding then
      l.width.getD 0 - before.length - tail.length
    else 0
  if maxWidth < least then .error .tooWide
  else
    let digits := if digits.isEmpty then [] else l.grouped least digits
    l.place before (digits ++ tail)

def integer (l : Layout) (n : Int) : Except LayoutError (List Char) := do
  if l.precision.isSome then throw .integerPrecision
  if l.negativeZero then throw .integerNegativeZero
  let based (base : Nat) (mark : Char) : List Char × List Char :=
    (if l.alternate then ['0', mark] else [], Nat.toDigits base n.natAbs)
  match l.code with
  | some 'c' =>
    if l.sign.isSome then throw .characterSign
    if l.alternate then throw .characterAlternate
    if Int.pow 2 63 ≤ n || n < -Int.pow 2 63 then throw .characterTooLarge
    if n < 0 || 0x10ffff < n then throw .characterRange
    l.number false [] [] [charOfCode n.toNat]
  | code =>
    let (mark, digits) ← match code with
      | some 'b' => pure (based 2 'b')
      | some 'o' => pure (based 8 'o')
      | some 'x' => pure (based 16 'x')
      | some 'X' =>
        let (mark, digits) := based 16 'X'
        pure (mark, digits.map Char.toUpper)
      | _ =>
        if Datum.tooLong n then throw (.longInteger Datum.tooLongMessage)
        else pure ([], (toString n.natAbs).toList)
    l.number (n < 0) mark digits []

def withPoint (cs : List Char) : List Char :=
  if cs.contains '.' then cs
  else (cs.takeWhile fun c => c != 'e') ++ '.' :: cs.dropWhile fun c => c != 'e'

def magnitudeText (l : Layout) (x : Binary64) : List Char :=
  let places := l.precision.getD 6
  let text := match l.code, l.precision with
    | some 'e', _ | some 'E', _ => x.scientificWith places l.alternate
    | some 'f', _ | some 'F', _ | some '%', _ => x.fixedWith places l.alternate
    | none, some count => x.generalDotted count l.alternate
    | none, none => if l.alternate then String.ofList (withPoint x.text.toList) else x.text
    | _, _ => x.generalWith places l.alternate
  let cs := text.toList
  match l.code with
  | some c => if c.isUpper then cs.map Char.toUpper else cs
  | none => cs

def float (l : Layout) (x : Binary64) : Except LayoutError (List Char) := do
  if Nat.pow 2 31 ≤ l.precision.getD 0 then throw .precisionTooLarge
  let x := if l.code == some '%' then x.mul (.ofInt 100) else x
  let text := l.magnitudeText x.abs
  let isZero := text.all fun c => !c.isDigit || c == '0'
  let negative := x.isNegative && x != .nan && !(l.negativeZero && isZero)
  let digits := text.takeWhile Char.isDigit
  let tail := text.dropWhile Char.isDigit
  l.number negative [] digits (if l.code == some '%' then tail ++ ['%'] else tail)

end Text.Layout

namespace Datum

def isFloatCode (code : Option Char) : Bool :=
  match code with
  | some c => ['e', 'E', 'f', 'F', 'g', 'G', '%'].contains c
  | Option.none => false

def layOutInt (kind : String) (n : Int) (layout : List Char) : Except LayoutError (List Char) := do
  let l ← readLayout kind .right (some 'd') layout
  if isFloatCode l.code then
    match (Number.int n).toFloat with
    | .ok x => l.float x
    | .error e => throw (.largeInteger e.message)
  else
    match l.code with
    | some c =>
      if ['b', 'c', 'd', 'o', 'x', 'X', 'n'].contains c then l.integer n
      else throw (.unknownCode c kind)
    | Option.none => l.integer n

def layOut (d : Datum) (layout : List Char) : Except LayoutError (List Char) :=
  if layout.isEmpty then .ok d.text.toList
  else
    match d with
    | str s => Text.layOut s.toList layout
    | int n => layOutInt "int" n layout
    | bool b => layOutInt "bool" (if b then 1 else 0) layout
    | float x => do
      let l ← readLayout "float" .right Option.none layout
      match l.code with
      | some c =>
        if isFloatCode (some c) || c == 'n' then l.float x else throw (.unknownCode c "float")
      | Option.none => l.float x
    | d => .error (.noLayout d.kind)

end Datum

end DataDiagram
