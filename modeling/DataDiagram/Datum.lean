import DataDiagram.Number.Arithmetic
import DataDiagram.Text.Quoted
/-!
# Data

The plain values that programs hold: initial values of variables and constants of expressions.
-/

namespace DataDiagram

/-- A plain value. -/
inductive Datum
  | none
  | ellipsis
  | bool (b : Bool)
  | int (n : Int)
  | float (x : Binary64)
  | complex (z : ComplexNumber)
  | str (s : String)
  | bytes (s : String)
  | tuple (items : List Datum)
  | list (items : List Datum)
  | set (items : List Datum)
  | dict (entries : List (Datum × Datum))
  /-- The numbers from `start` towards `stop` by `step`. -/
  | range (start stop step : Int)
  | record (cls : String) (fields : List (String × Datum))
  | named (kind text : String)
  deriving Inhabited

namespace Datum

/-! ### Texts -/

def boolText (b : Bool) : String := if b then "True" else "False"

def rangeText (start stop step : Int) : String :=
  "range(" ++ toString start ++ ", " ++ toString stop ++
    (if step == 1 then "" else ", " ++ toString step) ++ ")"

def tupleText : List String → String
  | [item] => "(" ++ item ++ ",)"
  | items => "(" ++ ", ".intercalate items ++ ")"

def listText (items : List String) : String := "[" ++ ", ".intercalate items ++ "]"

def bracedText (items : List String) : String := "\x7b" ++ ", ".intercalate items ++ "\x7d"

def setText (items : List String) : String := if items.isEmpty then "set()" else bracedText items

def recordText (cls : String) (fields : List (String × String)) : String :=
  cls ++ "(" ++ ", ".intercalate (fields.map fun f => f.1 ++ "=" ++ f.2) ++ ")"

def bytesText (s : String) : String := String.ofList ('b' :: Text.quotedAscii s.toList)

mutual

def display : Datum → String
  | none => "None"
  | ellipsis => "Ellipsis"
  | bool b => boolText b
  | int n => toString n
  | float x => x.text
  | complex z => z.text
  | str s => Text.quote s
  | bytes s => bytesText s
  | tuple items => tupleText (displayAll items)
  | list items => listText (displayAll items)
  | set items => setText (displayAll items)
  | dict entries => bracedText (displayEntries entries)
  | range start stop step => rangeText start stop step
  | record cls fields => recordText cls (displayFields fields)
  | named _ text => text

def displayAll : List Datum → List String
  | [] => []
  | d :: rest => display d :: displayAll rest

def displayEntries : List (Datum × Datum) → List String
  | [] => []
  | (k, v) :: rest => (display k ++ ": " ++ display v) :: displayEntries rest

def displayFields : List (String × Datum) → List (String × String)
  | [] => []
  | (name, d) :: rest => (name, display d) :: displayFields rest

end

def text : Datum → String
  | str s => s
  | d => display d

def maxDigits : Nat := 4300

def tooLongMessage : String :=
  s!"Exceeds the limit ({maxDigits} digits) for integer string conversion; " ++
    "use sys.set_int_max_str_digits() to increase the limit"

def tooLong (n : Int) : Bool := Nat.pow 10 maxDigits ≤ n.natAbs

mutual

/-- Whether a value can be displayed: it holds no integer with too many digits. -/
def isDisplayable : Datum → Bool
  | int n => !tooLong n
  | tuple items | list items | set items => allDisplayable items
  | dict entries => entriesDisplayable entries
  | range start stop step => !tooLong start && !tooLong stop && !tooLong step
  | record _ fields => fieldsDisplayable fields
  | _ => true

def allDisplayable : List Datum → Bool
  | [] => true
  | d :: rest => isDisplayable d && allDisplayable rest

def entriesDisplayable : List (Datum × Datum) → Bool
  | [] => true
  | (k, v) :: rest => isDisplayable k && isDisplayable v && entriesDisplayable rest

def fieldsDisplayable : List (String × Datum) → Bool
  | [] => true
  | (_, d) :: rest => isDisplayable d && fieldsDisplayable rest

end

/-! ### Kinds -/

def kind : Datum → String
  | none => "NoneType"
  | ellipsis => "ellipsis"
  | bool _ => "bool"
  | int _ => "int"
  | float _ => "float"
  | complex _ => "complex"
  | str _ => "str"
  | bytes _ => "bytes"
  | tuple _ => "tuple"
  | list _ => "list"
  | set _ => "set"
  | dict _ => "dict"
  | range .. => "range"
  | record cls _ => cls
  | named kind _ => kind

def isIterable : Datum → Bool
  | str _ | bytes _ | tuple _ | list _ | set _ | dict _ | range .. => true
  | _ => false

def int? : Datum → Option Int
  | int n => some n
  | bool b => some (if b then 1 else 0)
  | _ => Option.none

def number? : Datum → Option Number
  | int n => some (.int n)
  | bool b => some (.int (if b then 1 else 0))
  | float x => some (.float x)
  | complex z => some (.complex z)
  | _ => Option.none

def ofNumber : Number → Datum
  | .int n => int n
  | .float x => float x
  | .complex z => complex z

/-! ### Ranges -/

/-- The numbers of a range, at most `fuel` of them. -/
def rangeFrom (stop step : Int) : (fuel : Nat) → (start : Int) → List Int
  | 0, _ => []
  | fuel + 1, start =>
    if (0 < step && start < stop) || (step < 0 && stop < start) then
      start :: rangeFrom stop step fuel (start + step)
    else []

def rangeLength (start stop step : Int) : Nat :=
  if 0 < step then ((stop - start + step - 1).fdiv step).toNat
  else if step < 0 then ((start - stop - step - 1).fdiv (-step)).toNat
  else 0

def rangeItems (start stop step : Int) : List Int :=
  rangeFrom stop step (rangeLength start stop step) start

def rangeContains (start stop step n : Int) : Bool :=
  let inside := if 0 < step then start ≤ n && n < stop else n ≤ start && stop < n
  inside && (n - start) % step == 0

def sameRange (a b c a' b' c' : Int) : Bool :=
  let n := rangeLength a b c
  n == rangeLength a' b' c' && (n == 0 || (a == a' && (n == 1 || c == c')))

def truth : Datum → Bool
  | none => false
  | str s | bytes s => !s.isEmpty
  | tuple items | list items | set items => !items.isEmpty
  | dict entries => !entries.isEmpty
  | range a b c => rangeLength a b c != 0
  | d =>
    match d.number? with
    | some n => !n.isZero
    | Option.none => true

/-! ### Equality -/

def sameNumber (d e : Datum) : Bool :=
  match d.number?, e.number? with
  | some m, some n => m.equal n
  | _, _ => false

mutual

/-- Equality of values: numbers by value whatever their kind, instances by class and fields, sets
and dictionaries whatever their order, the others by kind and content. -/
def same : Datum → Datum → Bool
  | none, none => true
  | ellipsis, ellipsis => true
  | str s, str t => s == t
  | bytes s, bytes t => s == t
  | tuple xs, tuple ys => sameAll xs ys
  | list xs, list ys => sameAll xs ys
  | set xs, set ys => xs.length == ys.length && allAmong xs ys
  | dict xs, dict ys => xs.length == ys.length && entriesAmong xs ys
  | range a b c, range a' b' c' => sameRange a b c a' b' c'
  | record cls fs, record cls' gs => cls == cls' && sameFields fs gs
  | named k s, named l t => k == l && s == t
  | d, e => sameNumber d e

def sameAll : List Datum → List Datum → Bool
  | [], [] => true
  | x :: xs, y :: ys => same x y && sameAll xs ys
  | _, _ => false

def allAmong : List Datum → List Datum → Bool
  | [], _ => true
  | x :: xs, ys => ys.any (same x) && allAmong xs ys

def entriesAmong : List (Datum × Datum) → List (Datum × Datum) → Bool
  | [], _ => true
  | (k, v) :: xs, ys => (ys.any fun e => same k e.1 && same v e.2) && entriesAmong xs ys

def sameFields : List (String × Datum) → List (String × Datum) → Bool
  | [], [] => true
  | (n, x) :: xs, (m, y) :: ys => n == m && same x y && sameFields xs ys
  | _, _ => false

end

/-! ### Members of sets and keys of dictionaries -/

mutual

/-- The kind of the part of a value that keeps it from being a member of a set. -/
def unhashable? : Datum → Option String
  | tuple items => unhashableAmong? items
  | list _ => some "list"
  | set _ => some "set"
  | dict _ => some "dict"
  | record cls _ => some cls
  | _ => Option.none

/-- The kind of the first part of some values that keeps them from being members of a set. -/
def unhashableAmong? : List Datum → Option String
  | [] => Option.none
  | d :: rest =>
    match unhashable? d with
    | some kind => some kind
    | Option.none => unhashableAmong? rest

end

def putMember (items : List Datum) (d : Datum) : List Datum :=
  if items.any (same d) then items else items ++ [d]

/-- Entries with one more: a key that is there keeps its place and is given the new value. -/
def putEntry {α : Type} : List (Datum × α) → Datum → α → List (Datum × α)
  | [], k, v => [(k, v)]
  | (j, w) :: rest, k, v => if same j k then (j, v) :: rest else (j, w) :: putEntry rest k v

def lookup {α : Type} : List (Datum × α) → Datum → Option α
  | [], _ => Option.none
  | (j, w) :: rest, k => if same j k then some w else lookup rest k

end Datum

end DataDiagram
