import DataDiagram.Number.Shortest
/-!
# Numbers with a given number of digits

A number as a decimal with a given number of digits, after the point or altogether, rounded to the
nearest one, to the even one on a tie.
-/

namespace DataDiagram.Binary64

/-- `n` parts of `10 ^ places` as a decimal; the point may be kept when nothing follows it. -/
def placesText (places : Nat) (keepPoint : Bool) (n : Nat) : List Char :=
  let whole := (toString (n / Nat.pow 10 places)).toList
  if places == 0 then whole ++ (if keepPoint then ['.'] else [])
  else
    let fraction := (toString (n % Nat.pow 10 places)).toList
    whole ++ '.' :: (List.replicate (places - fraction.length) '0' ++ fraction)

/-- The text of what has no digits, and `f` of the numerator and the denominator of the magnitude of
what has. -/
def textOfMagnitude (f : Nat → Nat → List Char) (x : Binary64) : String :=
  let sign := if x.isNegative then ['-'] else []
  match x with
  | nan => "nan"
  | infinite _ => String.ofList (sign ++ "inf".toList)
  | finite _ mantissa exponent =>
    let (num, den) := scaled mantissa 1 (-exponent)
    String.ofList (sign ++ f num den)

def fixedWith (places : Nat) (keepPoint : Bool) (x : Binary64) : String :=
  x.textOfMagnitude fun num den =>
    placesText places keepPoint (roundDiv (num * Nat.pow 10 places) den)

def fixedText (places : Nat) (x : Binary64) : String := x.fixedWith places false

/-- The first `count` digits of a fraction, rounded, and the decimal exponent of the first one. -/
def leadingDigits (count : Nat) (num den : Nat) : Nat × Int :=
  if num == 0 then (0, 0)
  else
    let k := decimalExponent num den
    let last := k - (count : Int)
    let n := if 0 ≤ last then roundDiv num (den * Nat.pow 10 last.toNat)
      else roundDiv (num * Nat.pow 10 (-last).toNat) den
    if Nat.pow 10 count ≤ n then (n / 10, k) else (n, k - 1)

def exponentText (e : Int) : List Char :=
  let ds := (toString e.natAbs).toList
  'e' :: (if e < 0 then '-' else '+') :: (List.replicate (2 - ds.length) '0' ++ ds)

def scientificWith (places : Nat) (keepPoint : Bool) (x : Binary64) : String :=
  x.textOfMagnitude fun num den =>
    let (n, e) := leadingDigits (places + 1) num den
    placesText places keepPoint n ++ exponentText e

def withoutZeros (cs : List Char) : List Char :=
  if cs.contains '.' then
    let rest := cs.reverse.dropWhile (· == '0')
    (match rest with
      | '.' :: whole => whole
      | rest => rest).reverse
  else cs

/-- The text of a number with a number of digits altogether, with an exponent only if it is small or
if its digits before the point reach `limit`; zeros at the end are dropped unless they are to be
kept. -/
def generalUpTo (limit : Int) (count : Nat) (keepZeros : Bool) (x : Binary64) : String :=
  x.textOfMagnitude fun num den =>
    let (n, e) := leadingDigits count num den
    let tidy (cs : List Char) : List Char := if keepZeros then cs else withoutZeros cs
    if e < -4 || limit ≤ e then tidy (placesText (count - 1) keepZeros n) ++ exponentText e
    else
      let places := ((count : Int) - 1 - e).toNat
      tidy (placesText places keepZeros n)

/-- The text of a number with a number of digits altogether, with an exponent only if it is small or
has more digits. -/
def generalWith (count : Nat) (keepZeros : Bool) (x : Binary64) : String :=
  x.generalUpTo (max count 1 : Nat) (max count 1) keepZeros

/-- The text of a number with a number of digits altogether, which has a digit after the point
unless it has an exponent. -/
def generalDotted (count : Nat) (keepZeros : Bool) (x : Binary64) : String :=
  let text := x.generalUpTo ((max count 1 : Nat) - 1) (max count 1) keepZeros
  match x with
  | finite .. => if text.toList.any fun c => c == '.' || c == 'e' then text else text ++ ".0"
  | _ => text

end DataDiagram.Binary64
