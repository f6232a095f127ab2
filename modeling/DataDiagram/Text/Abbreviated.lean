import DataDiagram.Text.Packed
/-!
# Abbreviated tables

The marks of an abbreviated table are the digits of a fraction that narrows the table down choice by
choice.  Each choice is told by how probable a one is after what has been read: nine contexts are
asked, each of them remembers what has followed it, and their answers are weighed by how well they
have done, in all and after the last character.
-/

namespace DataDiagram.Text.Abbreviated

/-- How much speaks for a choice that is taken in `p` of 65536 cases, at least half of them: a
measure of the odds in steps of doubling, 256 to a step. -/
def support (p : Nat) : Nat :=
  let odds := 256 * p / (65536 - p)
  let steps := odds.log2 - 8
  256 * steps + (odds >>> steps) - 256

/-- How much speaks for a one that comes in `p` of 65536 cases. -/
def evidence (p : Nat) : Int := if 32768 ≤ p then support p else -support (65536 - p)

/-- In how many of 65536 cases a choice is taken, by how much speaks for it. -/
def cases : Array Nat := (Array.range 2816).map fun support =>
  let odds := (256 + support % 256) <<< (support / 256)
  65536 * odds / (odds + 256)

def chance (evidence : Int) : Nat :=
  if 0 ≤ evidence then cases.getD (min 2815 evidence.toNat) 0
  else 65536 - cases.getD (min 2815 (-evidence).toNat) 0

/-- What a context remembers: in how many of 65536 cases a one follows, and how often it was met, up
to five times. -/
def remember (one : Bool) (memory : Nat) : Nat :=
  let p := memory / 16
  let met := memory % 16
  let p := if one then p + (65535 - p) * 5 / (5 * met + 6) else p - p * 5 / (5 * met + 6)
  16 * max 32 (min 65504 p) + min 5 (met + 1)

/-- How much speaks for a one by what a context remembers, up to the last eight digits. -/
def answers : Array Int := (Array.range 4096).map fun n => evidence (16 * n + 8)

/-- What is left of the table: the marks to come, and the bounds that the choices so far set to the
value of the marks before them. -/
structure Fraction where
  low : Nat
  high : Nat
  value : Nat
  marks : List Nat

namespace Fraction

def first : Nat := 433626201009

def settle (low high value : Nat) : List Nat → Fraction
  | [] => ⟨low, high, value, []⟩
  | mark :: marks =>
    if low / first == high / first then
      settle (low % first * 87) (high % first * 87 + 86) (value % first * 87 + mark) marks
    else ⟨low, high, value, mark :: marks⟩

def ofMarks (marks : List Nat) : Fraction :=
  ⟨0, first * 87 - 1, (marks.take 7).foldl (fun n mark => n * 87 + mark) 0, marks.drop 7⟩

/-- The next choice, if a one comes in `p` of 65536 cases. -/
def choose (f : Fraction) (p : Nat) : Bool × Fraction :=
  let middle := f.low + (f.high - f.low) * p / 65536
  if f.value ≤ middle then (true, settle f.low middle f.value f.marks)
  else (false, settle (middle + 1) f.high f.value f.marks)

end Fraction

/-- The place of what a context remembers. -/
def place (i : Nat) (context : UInt64) : Nat :=
  (((context * 16 + i.toUInt64) * 0x9e3779b97f4a7c15) >>> 40).toNat

def answer (memory : Array Nat) (node context : Nat) : Int :=
  answers.getD (memory.getD (context ^^^ node) 0 / 256) 0

/-- Some answers, each times its weights, which start at two places. -/
def verdict (weights : Array Int) : (place other : Nat) → (given : List Int) → Int
  | _, _, [] => 0
  | place, other, a :: given =>
    (weights.getD place 0 + weights.getD other 0) * a + verdict weights (place + 1)
      (other + 1) given

/-- The weights after a verdict on some answers that was wrong by `error`. -/
def weigh (error : Int) : (place other : Nat) → (given : List Int) → Array Int → Array Int
  | _, _, [], weights => weights
  | place, other, a :: given, weights =>
    let change := a * error / 65536
    weigh error (place + 1) (other + 1) given
      ((weights.modify place (· + change)).modify other (· + change))

/-- Reads a character by some choices, which are the digits of `node` after the first. -/
def readCharacter (contexts : List Nat) (last : Nat) :
    (choices node : Nat) → Array Nat → Array Int → Fraction → Nat × Array Nat × Array Int × Fraction
  | 0, node, memory, weights, f => (node, memory, weights, f)
  | choices + 1, node, memory, weights, f =>
    let given := contexts.map (answer memory node)
    let place := 9 * node
    let other := 9 * (64 * (last + 1) + node)
    let p := chance (verdict weights place other given / 32768)
    let (one, f) := f.choose p
    let weights :=
      weigh (((if one then 65536 else 0) - (p : Int)) / 64 * 20) place other given weights
    let memory := contexts.foldl (fun memory c => memory.modify (c ^^^ node) (remember one)) memory
    readCharacter contexts last choices (2 * node + one.toNat) memory weights f

/-- What is remembered before anything is read. -/
def memory : Array Nat := Array.replicate 16777216 524288

def weights : Array Int := Array.replicate 37440 3000

end DataDiagram.Text.Abbreviated
