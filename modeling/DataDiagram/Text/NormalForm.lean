import DataDiagram.Text.Abbreviated
import DataDiagram.Text.NormalForm.Table
/-!
# Normal forms of identifiers

Identifiers that differ only in how their characters are written are the same.  The normal form
takes every character apart, puts marks in order, and puts together again what belongs together.
-/

namespace DataDiagram.Text.NormalForm

/-! ### Tables -/

def stepped (value step : Nat) : Nat :=
  if step % 2 == 0 then value + step / 2 else value - (step + 1) / 2

structure Entry where
  first : Nat
  last : Nat
  isPair : Bool
  values : List Nat

/-- The entries of the numbers of a table, after the code point `next`.  The values that steps start
from are `before`. -/
def entriesFrom : (fuel next : Nat) → (before : List Nat) → List Nat → List Entry
  | fuel + 1, next, before, gap :: head :: rest =>
    let first := next + gap
    let count := head % 32
    let last := if count == 1 then first + head / 32 else first
    let steps := rest.take count
    let values := (List.range steps.length).map fun i => stepped (before.getD i 0) (steps.getD i 0)
    ⟨first, last, count != 1 && head / 32 == 1, values⟩ ::
      entriesFrom fuel (last + 1) (values ++ before.drop values.length) (rest.drop count)
  | _, _, _, _ => []

def entries (marks : List Nat) : List Entry :=
  let numbers := Packed.numbersFrom 0 marks
  entriesFrom numbers.length 0 [] numbers

def entry? (code : Nat) (table : List Entry) : Option Entry :=
  table.find? fun e => e.first ≤ code && code ≤ e.last

/-- The contexts of the next mark: up to four marks before it, the last one first. -/
def contexts (recent : List Nat) : List Nat :=
  [0, 1, 2, 3, 4].mapIdx fun i n =>
    Abbreviated.place i ((recent.take n).foldl (fun key mark => 128 * key + mark + 1) 0).toUInt64

def readMarks : (length : Nat) → (recent : List Nat) → Array Nat → Array Int →
      Abbreviated.Fraction →
    List Nat
  | 0, recent, _, _, _ => recent.reverse
  | length + 1, recent, memory, weights, f =>
    let (node, memory, weights, f) :=
      Abbreviated.readCharacter (contexts recent) 0 7 1 memory weights f
    readMarks length ((node - 128) :: recent) memory weights f

def decompositions : Thunk (List Entry) := Thunk.mk fun _ =>
  entries (readMarks decompositionLength [] Abbreviated.memory Abbreviated.weights
    (.ofMarks (Packed.values decompositionTable)))

def classes : List Entry := entries (Packed.values classTable)

/-! ### Taking apart -/

/-- The first syllable that is put together from two or three parts. -/
def syllableBase : Nat := 0xac00

def isSyllable (code : Nat) : Bool := syllableBase ≤ code && code < syllableBase + 11172

def syllableParts (code : Nat) : List Nat :=
  let i := code - syllableBase
  let tail := i % 28
  [0x1100 + i / 588, 0x1161 + i % 588 / 28] ++ (if tail == 0 then [] else [0x11a7 + tail])

/-- What a character is made of.  Pairs are taken apart up to `depth` times. -/
def decomposedWithin (depth code : Nat) : List Nat :=
  if code < 128 then [code]
  else if isSyllable code then syllableParts code
  else
    match depth, entry? code decompositions.get with
    | depth + 1, some ⟨_, _, true, [first, second]⟩ => decomposedWithin depth first ++ [second]
    | _, some ⟨first, _, _, [d]⟩ => [d + (code - first)]
    | _, some e => e.values
    | _, none => [code]

def decomposed (code : Nat) : List Nat := decomposedWithin 3 code

def combiningClass (code : Nat) : Nat :=
  if code < 128 then 0
  else
    match entry? code classes with
    | some ⟨_, _, _, [k]⟩ => k
    | _ => 0

/-! ### Order -/

/-- Puts a mark before the marks of higher classes at the end of a text, the last one being
first. -/
def insertMark (mark : Nat × Nat) : List (Nat × Nat) → List (Nat × Nat)
  | [] => [mark]
  | other :: rest =>
    if mark.2 != 0 && mark.2 < other.2 then other :: insertMark mark rest else mark :: other :: rest

def ordered (codes : List Nat) : List (Nat × Nat) :=
  (codes.foldl (fun done code => insertMark (code, combiningClass code) done) []).reverse

/-! ### Putting together -/

def composed? (first second : Nat) : Option Nat :=
  if 0x1100 ≤ first && first ≤ 0x1112 && 0x1161 ≤ second && second ≤ 0x1175 then
    some (syllableBase + ((first - 0x1100) * 21 + (second - 0x1161)) * 28)
  else if isSyllable first && (first - syllableBase) % 28 == 0 && 0x11a8 ≤ second && second ≤
    0x11c2 then
    some (first + (second - 0x11a7))
  else
    (decompositions.get.find? fun e => e.isPair && e.values == [first, second]).map Entry.first

/-- Puts together what belongs together.  `start` is the last character that is no mark, `passed`
holds the marks after it that stay apart, the last one first. -/
def compose : (start : Option Nat) → (passed : List (Nat × Nat)) → List (Nat × Nat) → List Nat
  | start, passed, [] => start.toList ++ (passed.map Prod.fst).reverse
  | none, _, (code, k) :: rest =>
    if k == 0 then compose (some code) [] rest else code :: compose none [] rest
  | some start, passed, (code, k) :: rest =>
    let isFree := match passed with
      | [] => true
      | (_, last) :: _ => last < k
    match if isFree then composed? start code else none with
    | some both => compose (some both) passed rest
    | none =>
      if k == 0 then start :: (passed.map Prod.fst).reverse ++ compose (some code) [] rest
      else compose (some start) ((code, k) :: passed) rest

end NormalForm

def normalForm (word : List Char) : List Char :=
  if word.all (·.toNat < 128) then word
  else
    let codes := word.flatMap fun c => NormalForm.decomposed c.toNat
    (NormalForm.compose none [] (NormalForm.ordered codes)).map Char.ofNat

end DataDiagram.Text
