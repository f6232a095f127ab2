import DataDiagram.Number.Binary64
/-!
# Shortest decimal texts

The text of a number of double precision has the fewest significant digits that read back as the
number, and of those the digits nearest to it.  Numbers from a ten-thousandth up to `10 ^ 16` are
written positionally, the others with an exponent.
-/

namespace DataDiagram.Binary64

/-- The exponent `k` such that `10 ^ (k - 1) ≤ num / den < 10 ^ k`, for positive naturals. -/
def decimalExponent (num den : Nat) : Int :=
  let guess : Int := ((num.log2 : Int) - (den.log2 : Int)) * 1233 / 4096
  let below (k : Int) : Bool :=
    if 0 ≤ k then num < den * Nat.pow 10 k.toNat else num * Nat.pow 10 (-k).toNat < den
  let rec settle : Nat → Int → Int
    | 0, k => k
    | n + 1, k =>
      if below k then (if below (k - 1) then settle n (k - 1) else k) else settle n (k + 1)
  settle 8 guess

/-- `digits * 10 ^ exponent` as a number of double precision. -/
def ofDecimal (negative : Bool) (digits : Nat) (exponent : Int) : Binary64 :=
  if 0 ≤ exponent then ofRatio negative (digits * Nat.pow 10 exponent.toNat) 1
  else ofRatio negative digits (Nat.pow 10 (-exponent).toNat)

/-- The nearest decimal with `count` significant digits that reads back as the finite number with
the given mantissa and exponent, if one of the two neighbours does. -/
def decimalWith? (mantissa : Nat) (exponent : Int) (k : Int) (count : Nat) : Option (Nat × Int) :=
  let last := k - (count : Int)
  let (num, den) := scaled mantissa 1 (-exponent)
  let (n, d) :=
    if 0 ≤ last then (num, den * Nat.pow 10 last.toNat) else (num * Nat.pow 10 (-last).toNat, den)
  let low := n / d
  let reads (digits : Nat) : Bool := ofDecimal false digits last == finite false mantissa exponent
  let nearest := roundDiv n d
  let other := if nearest == low then low + 1 else low
  if reads nearest then some (nearest, last)
  else if reads other then some (other, last)
  else none

/-- The fewest digits that read back, tried from `count` on. -/
def shortestFrom (mantissa : Nat) (exponent : Int) (k : Int) : (fuel count : Nat) → Nat × Int
  | 0, count => (decimalWith? mantissa exponent k count).getD (0, 0)
  | fuel + 1, count =>
    match decimalWith? mantissa exponent k count with
    | some found => found
    | none => shortestFrom mantissa exponent k fuel (count + 1)

def shortest (mantissa : Nat) (exponent : Int) : Nat × Int :=
  let (num, den) := scaled mantissa 1 (-exponent)
  shortestFrom mantissa exponent (decimalExponent num den) 17 1

def dropZeros : (fuel : Nat) → Nat × Int → Nat × Int
  | 0, x => x
  | fuel + 1, (digits, exponent) =>
    if digits != 0 && digits % 10 == 0 then dropZeros fuel (digits / 10, exponent + 1)
    else (digits, exponent)

/-- Where the text of a number turns to an exponent, and how it is written. -/
structure DecimalStyle where
  least : Int
  greatest : Int
  exponentWidth : Nat

/-- Positional from `10 ^ (-4)` to below `10 ^ 16`, two digits for an exponent. -/
def DecimalStyle.plain : DecimalStyle := ⟨-4, 15, 2⟩

/-- The text of the positive decimal `digits * 10 ^ exponent`. -/
def decimalText (style : DecimalStyle) (digits : Nat) (exponent : Int) : List Char :=
  let ds := (toString digits).toList
  let point := (ds.length : Int) + exponent
  let leading := point - 1
  if style.least ≤ leading && leading ≤ style.greatest then
    if point ≤ 0 then
      '0' :: '.' :: (List.replicate (-point).toNat '0' ++ ds)
    else if 0 ≤ exponent then
      ds ++ List.replicate exponent.toNat '0' ++ ['.', '0']
    else
      ds.take point.toNat ++ '.' :: ds.drop point.toNat
  else
    let power := (toString leading.natAbs).toList
    let power := List.replicate (style.exponentWidth - power.length) '0' ++ power
    let tail := match ds.drop 1 with
      | [] => []
      | more => '.' :: more
    ds.take 1 ++ tail ++ 'e' :: (if leading < 0 then '-' else '+') :: power

def text (x : Binary64) : String :=
  let sign := if x.isNegative then ['-'] else []
  match x with
  | nan => "nan"
  | infinite _ => String.ofList (sign ++ "inf".toList)
  | finite _ mantissa exponent =>
    if mantissa == 0 then String.ofList (sign ++ "0.0".toList)
    else
      let (digits, power) := dropZeros 20 (shortest mantissa exponent)
      String.ofList (sign ++ decimalText .plain digits power)

end DataDiagram.Binary64
