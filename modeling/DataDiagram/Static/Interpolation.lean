import DataDiagram.Static.Sequence
/-!
# Interpolation

A text with places that are filled by values: `%d`, `%5.2f`, `%(name)s`.  A place has flags, a
width, a precision and a letter for what is written there.
-/

namespace DataDiagram.Static.Interpolation

/-- How a value is written at a place. -/
structure Place where
  leftAligned : Bool
  signed : Bool
  blank : Bool
  alternate : Bool
  zeros : Bool
  width : Option Nat
  precision : Option Nat
  letter : Char

/-- The values that are still to be filled in. -/
structure Supply where
  rest : List Value
  mapping : Option Value

def malformed {α : Type} (message : String) : Eval α := throw (.refused .value message)

def next (supply : Supply) : Eval (Value × Supply) :=
  match supply.rest with
  | v :: rest => return (v, { supply with rest })
  | [] => throw (.refused .type "not enough arguments for format string")

/-! ### Reading places -/

def key? : (depth : Nat) → List Char → Option (List Char × List Char)
  | _, [] => none
  | depth, ')' :: rest =>
    match depth with
    | 0 => some ([], rest)
    | depth + 1 => (key? depth rest).map fun (k, more) => (')' :: k, more)
  | depth, '(' :: rest => (key? (depth + 1) rest).map fun (k, more) => ('(' :: k, more)
  | depth, c :: rest => (key? depth rest).map fun (k, more) => (c :: k, more)

def readFlags : Place → List Char → Place × List Char
  | p, '-' :: rest => readFlags { p with leftAligned := true } rest
  | p, '+' :: rest => readFlags { p with signed := true } rest
  | p, ' ' :: rest => readFlags { p with blank := true } rest
  | p, '#' :: rest => readFlags { p with alternate := true } rest
  | p, '0' :: rest => readFlags { p with zeros := true } rest
  | p, cs => (p, cs)

def readNumber (limit : Nat) (tooBig : String) (cs : List Char) : Eval (Nat × List Char) := do
  let n := (cs.takeWhile Char.isDigit).foldl (fun n c => 10 * n + (c.toNat - 48)) 0
  if limit < n then malformed tooBig else return (n, cs.dropWhile Char.isDigit)

def starred (supply : Supply) : Eval (Int × Supply) := do
  let (v, supply) ← next supply
  match v.int? with
  | some n =>
    if n.natAbs < Nat.pow 2 31 then return (n, supply) else throw .lengthTooLarge
  | none => throw (.refused .type "* wants int")

def readWidth (p : Place) (supply : Supply) (cs : List Char) : Eval (Place × Supply × List Char) :=
  do
  match cs with
  | '*' :: rest =>
    let (n, supply) ← starred supply
    return ({ p with width := some n.natAbs, leftAligned := p.leftAligned || n < 0 }, supply, rest)
  | c :: _ =>
    if c.isDigit then
      let (n, rest) ← readNumber (Nat.pow 2 63 - 1) "width too big" cs
      return ({ p with width := some n }, supply, rest)
    else return (p, supply, cs)
  | [] => return (p, supply, [])

def readPrecision (p : Place) (supply : Supply) (cs : List Char) :
    Eval (Place × Supply × List Char) := do
  match cs with
  | '.' :: '*' :: rest =>
    let (n, supply) ← starred supply
    return ({ p with precision := some n.toNat }, supply, rest)
  | '.' :: rest =>
    let (n, rest) ← readNumber (Nat.pow 2 31 - 1) "precision too big" rest
    return ({ p with precision := some n }, supply, rest)
  | cs => return (p, supply, cs)

def dropSize : List Char → List Char
  | 'h' :: rest | 'l' :: rest | 'L' :: rest => rest
  | cs => cs

def readPlace (supply : Supply) (cs : List Char) : Eval (Place × Supply × List Char) := do
  let (supply, cs) ← match cs with
    | '(' :: rest =>
      match supply.mapping with
      | none => throw (.refused .type "format requires a mapping")
      | some m =>
        match key? 0 rest with
        | none => malformed "incomplete format key"
        | some (name, rest) => do
          let v ← element m (← Eval.ofString (String.ofList name))
          pure ({ supply with rest := [v] }, rest)
    | cs => pure (supply, cs)
  let (p, cs) := readFlags ⟨false, false, false, false, false, none, none, ' '⟩ cs
  let (p, supply, cs) ← readWidth p supply cs
  let (p, supply, cs) ← readPrecision p supply cs
  match dropSize cs with
  | c :: rest => return ({ p with letter := c }, supply, rest)
  | [] => malformed "incomplete format"

/-! ### Writing values -/

def cut (p : Place) (cs : List Char) : List Char :=
  match p.precision with
  | some n => cs.take n
  | none => cs

def aligned (p : Place) (cs : List Char) : List Char :=
  let missing := List.replicate (p.width.getD 0 - cs.length) ' '
  if p.leftAligned then cs ++ missing else missing ++ cs

def signOf (p : Place) (negative : Bool) : List Char :=
  if negative then ['-'] else if p.signed then ['+'] else if p.blank then [' '] else []

def number (p : Place) (negative : Bool) (base digits : List Char) : List Char :=
  let lead := signOf p negative ++ base
  if p.zeros && !p.leftAligned then
    lead ++ List.replicate (p.width.getD 0 - lead.length - digits.length) '0' ++ digits
  else aligned p (lead ++ digits)

def digitsIn (base n : Nat) : List Char := Nat.toDigits base n

def integerDigits (p : Place) (ds : List Char) : List Char :=
  List.replicate (p.precision.getD 0 - ds.length) '0' ++ ds

def integer (p : Place) (n : Int) : Eval (List Char) := do
  let base (mark : Char) : List Char := if p.alternate then ['0', mark] else []
  let negative := decide (n < 0)
  match p.letter with
  | 'o' => return number p negative (base 'o') (integerDigits p (digitsIn 8 n.natAbs))
  | 'x' => return number p negative (base 'x') (integerDigits p (digitsIn 16 n.natAbs))
  | 'X' =>
    return number p negative (base 'X') ((integerDigits p (digitsIn 16 n.natAbs)).map Char.toUpper)
  | _ =>
    if Datum.tooLong n then throw .tooManyDigits
    else return number p negative [] (integerDigits p (digitsIn 10 n.natAbs))

def integerOf (p : Place) (v : Value) : Eval Int := do
  let isBased := p.letter == 'o' || p.letter == 'x' || p.letter == 'X'
  let refuse : Eval Int := do
    let what := if isBased then "an integer" else "a real number"
    throw (.refused .type (s!"%{p.letter} format: {what} is required, not " ++ (← Eval.kindName v)))
  match v, v.index? with
  | _, some n => return n
  | .float _ x, none =>
    if isBased then refuse
    else
      match x.truncate?, x with
      | some n, _ => return n
      | none, .infinite _ => throw (.refused .overflow "cannot convert float infinity to integer")
      | none, _ => throw (.refused .value "cannot convert float NaN to integer")
  | _, none => refuse

def float (p : Place) (x : Binary64) : List Char :=
  let precision := p.precision.getD 6
  let text := match p.letter with
    | 'e' | 'E' => x.abs.scientificWith precision p.alternate
    | 'f' | 'F' => x.abs.fixedWith precision p.alternate
    | _ => x.abs.generalWith precision p.alternate
  let text := if p.letter.isUpper then text.map Char.toUpper else text
  number p (x.isNegative && x != .nan) [] text.toList

def floatOf (v : Value) : Eval Binary64 := do
  match v.number? with
  | some (.complex _)
  | none => throw (.refused .type ("must be real number, not " ++ (← Eval.kindName v)))
  | some n =>
    match n.toFloat with
    | .ok x => return x
    | .error e => throw (.datum (.number e))

def charOf (v : Value) : Eval (List Char) := do
  match v, v.index? with
  | .str _ s, _ =>
    if s.length == 1 then return s.toList else throw (.refused .type "%c requires int or char")
  | _, some n =>
    if 0 ≤ n && n < 0x110000 then return [Text.charOfCode n.toNat]
    else throw (.refused .overflow "%c arg not in range(0x110000)")
  | _, none => throw (.refused .type "%c requires int or char")

def asciiText (s : String) : List Char :=
  s.toList.flatMap fun c => if c.toNat < 128 then [c] else Text.numericEscape c

/-- A value at a place; `index` is where the letter of the place stands. -/
def write (p : Place) (index : Nat) (v : Value) : Eval (List Char) := do
  match p.letter with
  | 's' => return aligned p (cut p (← Eval.print v).toList)
  | 'r' => return aligned p (cut p (← Eval.display v).toList)
  | 'a' => return aligned p (cut p (asciiText (← Eval.display v)))
  | 'd' | 'i' | 'u' | 'o' | 'x' | 'X' => integer p (← integerOf p v)
  | 'e' | 'E' | 'f' | 'F' | 'g' | 'G' => return float p (← floatOf v)
  | 'c' => return aligned p (← charOf v)
  | c =>
    let shown := if 31 ≤ c.toNat && c.toNat < 126 then c else '?'
    let code := String.ofList (digitsIn 16 c.toNat)
    malformed (s!"unsupported format character '{shown}' (0x{code}) at index {index}")

def fill (total : Nat) : (fuel : Nat) → Supply → List Char → Eval (List Char)
  | 0, _, _ => return []
  | _, supply, [] => do
    if supply.rest.isEmpty || supply.mapping.isSome then return []
    else throw (.refused .type "not all arguments converted during string formatting")
  | fuel + 1, supply, '%' :: cs => do
    let (p, supply, rest) ← readPlace supply cs
    if p.letter == '%' then return '%' :: (← fill total fuel supply rest)
    else
      let (v, supply) ← next supply
      let text ← write p (total - rest.length - 1) v
      return text ++ (← fill total fuel supply rest)
  | fuel + 1, supply, c :: cs => do return c :: (← fill total fuel supply cs)

def supplyOf : Value → Supply
  | .tuple _ items => ⟨items, none⟩
  | .str id s => ⟨[.str id s], none⟩
  | .list a => ⟨[.list a], some (.list a)⟩
  | .dict a => ⟨[.dict a], some (.dict a)⟩
  | .bytes id s => ⟨[.bytes id s], some (.bytes id s)⟩
  | .range id a b c => ⟨[.range id a b c], some (.range id a b c)⟩
  | v => ⟨[v], none⟩

def interpolate (text : String) (v : Value) : Eval Value := do
  let cs := text.toList
  Eval.ofString (String.ofList (← fill cs.length (cs.length + 1) (supplyOf v) cs))

end DataDiagram.Static.Interpolation
