import DataDiagram.Datum.Layout
import DataDiagram.Static.Arguments
import DataDiagram.Static.Operator
import DataDiagram.Text.Blank
/-!
# Functions that are always there

What the functions and classes that every program sees make of their arguments.
-/

namespace DataDiagram.Static.Builtin

/-! ### Arguments -/

def refuse {α : Type} (message : String) : Eval α := throw (.refused .type message)

def unnamed (callee : String) (args : Arguments) : Eval (List Value) :=
  if args.named.isEmpty then return args.positional
  else refuse (callee ++ "() takes no keyword arguments")

def single (callee : String) (args : Arguments) : Eval Value := do
  match ← unnamed callee args with
  | [v] => return v
  | given => refuse s!"{callee}() takes exactly one argument ({given.length} given)"

def atMostOne (callee : String) (args : Arguments) : Eval (Option Value) := do
  match ← unnamed callee args with
  | [] => return none
  | [v] => return some v
  | given => refuse s!"{callee} expected at most 1 argument, got {given.length}"

def pair (callee : String) (args : Arguments) : Eval (Value × Value) := do
  match ← unnamed callee args with
  | [v, w] => return (v, w)
  | given => refuse s!"{callee} expected 2 arguments, got {given.length}"

def intArgument (v : Value) : Eval Int := do
  match v.index? with
  | some n => return n
  | none => throw (.notInteger (← Eval.kindName v))

def unknownName {α : Type} (callee name : String) : Eval α :=
  refuse s!"'{name}' is an invalid keyword argument for {callee}()"

/-! ### Ranges and lengths -/

def range (args : Arguments) : Eval Value := do
  match ← unnamed "range" args with
  | [] => refuse "range expected at least 1 argument, got 0"
  | [stop] => do Eval.newRange 0 (← intArgument stop) 1
  | [start, stop] => do Eval.newRange (← intArgument start) (← intArgument stop) 1
  | [start, stop, step] =>
    let a ← intArgument start
    let b ← intArgument stop
    let c ← intArgument step
    if c == 0 then throw (.refused .value "range() arg 3 must not be zero") else Eval.newRange a b c
  | given => refuse s!"range expected at most 3 arguments, got {given.length}"

/-! ### Numbers -/

def magnitude (v : Value) : Eval Value := do
  match v with
  | .formula f =>
    if f.isArithmetical then return .formula f.abs
    else throw (.badOperand "abs()" (← Eval.kindName v))
  | .int _ n => if 0 ≤ n then return v else Eval.ofInt (-n)
  | v =>
    match v.number? with
    | some n => Eval.ofNumber n.abs
    | none => throw (.badOperand "abs()" (← Eval.kindName v))

def integral (round : Int → Nat → Int) (x : Binary64) : Eval Value :=
  match x.ratio? with
  | some (a, b) => Eval.ofInt (round a b)
  | none =>
    match x with
    | .infinite _ => throw (.refused .overflow "cannot convert float infinity to integer")
    | _ => throw (.refused .value "cannot convert float NaN to integer")

def nearest (a : Int) (b : Nat) : Int :=
  let low := a.fdiv b
  match compare (2 * (a - low * b)) (b : Int) with
  | .lt => low
  | .gt => low + 1
  | .eq => if low % 2 == 0 then low else low + 1

def roundPlaces (x : Binary64) (places : Int) : Binary64 :=
  match x.ratio? with
  | none => x
  | some (a, b) =>
    if 400 < places then x
    else if places < -400 then .zero x.isNegative
    else
      let n := if 0 ≤ places then nearest (a * Int.pow 10 places.toNat) b
        else nearest a (b * Nat.pow 10 (-places).toNat)
      if n == 0 then .zero x.isNegative else .ofDecimal (decide (n < 0)) n.natAbs (-places)

def round (v : Value) (places : Option Int) : Eval Value := do
  match v, places with
  | .bool b, none => return .int 0 (if b then 1 else 0)
  | .int _ n, some k =>
    if 0 ≤ k then return v
    else Eval.ofInt (nearest n (Nat.pow 10 (-k).toNat) * Int.pow 10 (-k).toNat)
  | .int .., none => return v
  | .float _ x, none => integral nearest x
  | .float _ x, some k => Eval.ofFloat (roundPlaces x k)
  | .formula (.number n), none =>
    match n.int? with
    | some _ => return v
    | none => Algebra.fail
  | v, _ => refuse ("type " ++ (← Eval.kindName v) ++ " doesn't define __round__ method")

/-- The quotient of two values, rounded down, and the remainder. -/
def divMod (v w : Value) : Eval Value := do
  let refuseOperands : Eval Value := do
    throw (.datum (.badOperands "divmod()" (← Eval.kindName v) (← Eval.kindName w)))
  if v.isFormula || w.isFormula then
    match Algebra.binary .floorDiv v w, Algebra.binary .mod v w with
    | some q, some r => Eval.newTuple [q, r]
    | _, _ => refuseOperands
  else
    match v.number?, w.number? with
    | some x, some y =>
      match x.divMod y with
      | .ok (q, r) => do Eval.newTuple [← Eval.ofNumber q, ← Eval.ofNumber r]
      | .error .unsupported => refuseOperands
      | .error e => throw (.datum (.number e))
    | _, _ => refuseOperands

def powerModulo (modulus : Int) : (fuel : Nat) → (base : Int) → (exponent : Nat) → Int
  | 0, _, _ => 1
  | fuel + 1, base, exponent =>
    if exponent == 0 then (1 : Int).fmod modulus
    else
      let half := powerModulo modulus fuel ((base * base).fmod modulus) (exponent / 2)
      if exponent % 2 == 1 then (half * base).fmod modulus else half

def power (args : List Value) : Eval Value := do
  match args with
  | [v, w] => Operator.binary .pow v w
  | [v, w, m] =>
    match v.int?, w.int?, m.int? with
    | some a, some b, some c =>
      if c == 0 then throw (.refused .value "pow() 3rd argument cannot be 0")
      else if b < 0 then throw (.refused .value "base is not invertible for the given modulus")
      else Eval.ofInt (powerModulo c (b.toNat.log2 + 2) (a.fmod c) b.toNat)
    | _, _, _ => refuse "pow() 3rd argument not allowed unless all arguments are integers"
  | _ => refuse s!"pow() takes at most 3 arguments ({args.length} given)"

def signedDigits : List Char → Bool × List Char
  | '-' :: rest => (true, rest)
  | '+' :: rest => (false, rest)
  | cs => (false, cs)

def integer (v : Value) : Eval Value := do
  match v with
  | .int .. => return v
  | .str _ s =>
    let trimmed := (s.toList.dropWhile Text.isBlank).reverse.dropWhile Text.isBlank |>.reverse
    let (negative, digits) := signedDigits trimmed
    match Text.decimalNumber? digits with
    | some n => Eval.ofInt (if negative then -(n : Int) else n)
    | none => throw (.refused .value ("invalid literal for int() with base 10: " ++ Text.quote s))
  | .float _ x => integral (fun a b => a.tdiv b) x
  | v =>
    match v.index? with
    | some n => Eval.ofInt n
    | none =>
      refuse ("int() argument must be a string, a bytes-like object or a real number, not '" ++
        (← Eval.kindName v) ++ "'")

def float (v : Value) : Eval Value := do
  match v with
  | .float .. => return v
  | .formula (.number n) =>
    match n.rat? with
    | some q => Eval.ofFloat (.ofRatio (decide (q.num < 0)) q.num.natAbs q.den)
    | none => Algebra.fail
  | v =>
    match v.number? with
    | some (.complex _) | none =>
      refuse ("float() argument must be a string or a real number, not '" ++
        (← Eval.kindName v) ++ "'")
    | some n =>
      match n.toFloat with
      | .ok x => Eval.ofFloat x
      | .error e => throw (.datum (.number e))

def commonDivisor : Nat → List Value → Eval Nat
  | d, [] => return d
  | d, v :: rest => do commonDivisor (d.gcd (← intArgument v).natAbs) rest

def commonMultiple : Nat → List Value → Eval Nat
  | d, [] => return d
  | d, v :: rest => do commonMultiple (d.lcm (← intArgument v).natAbs) rest

def roundTo (round : Int → Nat → Int) (v : Value) : Eval Value := do
  match v with
  | .float _ x => integral round x
  | v =>
    match v.int? with
    | some n => Eval.ofInt n
    | none => refuse ("must be real number, not " ++ (← Eval.kindName v))

/-! ### Least, greatest, sums -/

/-- The item that no later one goes before, by the values that `key` gives. -/
def extreme (key : Value → Run Value) (op : Source.CompareOp) (items : Items) :
    Run (Option Value) := do
  let step (best : Option (Value × Value)) (v : Value) : Run (Option (Value × Value) × Bool) := do
    let k ← key v
    match best with
    | none => return (some (v, k), true)
    | some (w, l) =>
      if ← isOrdered op k l then return (some (v, k), true) else return (some (w, l), true)
  return (← items.visit step none).map Prod.fst

def keyed (apply : Apply) (key : Option Value) (v : Value) : Run Value :=
  match key with
  | none | some .none => return v
  | some f => apply f ⟨[v], []⟩

def checkExtreme (callee : String) (args : Arguments) : Eval Unit := do
  if args.positional.isEmpty then refuse (callee ++ " expected at least 1 argument, got 0")
  if 2 < args.named.length then
    refuse (s!"{callee}() takes at most 2 keyword arguments ({args.named.length} given)")
  match args.named.find? fun a => a.1 != "default" && a.1 != "key" with
  | some (name, _) => unknownName callee name
  | none => return ()

def extremeOf (apply : Apply) (callee : String) (op : Source.CompareOp) (args : Arguments) :
    Run Value := do
  checkExtreme callee args
  let default := args.named.lookup "default"
  let key := keyed apply (args.named.lookup "key")
  match args.positional with
  | [v] =>
    match ← extreme key op (← Eval.items v), default with
    | some best, _ => return best
    | none, some d => return d
    | none, none => throw (.refused .value (callee ++ "() arg is an empty sequence"))
  | given =>
    if default.isSome then
      refuse ("Cannot specify a default for " ++ callee ++
        "() with multiple positional arguments")
    else return (← extreme key op (.values given none)).getD .none

def addUp (v start : Value) : Eval Value := do
  let items ← Eval.items v
  match start with
  | .str .. => refuse "sum() can't sum strings [use ''.join(seq) instead]"
  | .bytes .. => refuse "sum() can't sum bytes [use b''.join(seq) instead]"
  | start => items.visit (fun total v => do return (← Operator.binary .add total v, true)) start

def sum (args : Arguments) : Eval Value := do
  let given := args.positional.length + args.named.length
  if 2 < given then refuse s!"sum() takes at most 2 arguments ({given} given)"
  match args.positional, args.named with
  | [], _ => refuse "sum() takes at least 1 positional argument (0 given)"
  | [v], [] => addUp v (.int 0 0)
  | [v], ("start", start) :: _ => addUp v start
  | [v, start], [] => addUp v start
  | _, (name, _) :: _ => unknownName "sum" name
  | _, [] => refuse s!"sum() takes at most 2 arguments ({given} given)"

def insertSorted (op : Source.CompareOp) (v : Value × Value) :
    List (Value × Value) → Eval (List (Value × Value))
  | [] => return [v]
  | w :: rest => do
    if ← isOrdered op v.2 w.2 then return v :: w :: rest
    else return w :: (← insertSorted op v rest)

def sortingOrder (named : List (String × Value)) : Eval Source.CompareOp := do
  match named.lookup "reverse" with
  | some r => return if ← Eval.truth r then .gt else .lt
  | none => return .lt

def sorted (apply : Apply) (args : Arguments) : Run Value := do
  match args.positional with
  | [v] =>
    match args.named.find? fun a => a.1 != "reverse" && a.1 != "key" with
    | some (name, _) => unknownName "sort" name
    | none =>
      let op ← sortingOrder args.named
      let put (acc : List (Value × Value)) (x : Value) : Run (List (Value × Value)) := do
        insertSorted op (x, ← keyed apply (args.named.lookup "key") x) acc
      Eval.newList ((← (← Eval.itemList v).foldlM put []).map Prod.fst)
  | given => refuse s!"sorted expected 1 argument, got {given.length}"

/-- Whether some item counts as `b`. -/
def anyIs (b : Bool) (v : Value) : Eval Bool := do
  (← Eval.items v).visit (fun (_ : Bool) w => do
    if (← Eval.truth w) == b then return (true, false) else return (false, true)) false

/-! ### Texts -/

def laidOut (d : Datum) (layout : String) : Eval String :=
  match d.layOut layout.toList with
  | .ok cs => return String.ofList cs
  | .error e => throw (.refused e.kind e.message)

def basedText (mark : String) (base : Nat) (v : Value) : Eval Value := do
  let n ← intArgument v
  let digits := String.ofList (Nat.toDigits base n.natAbs)
  Eval.ofString ((if n < 0 then "-" else "") ++ mark ++ digits)

def character (v : Value) : Eval Value := do
  let n ← intArgument v
  if 0 ≤ n && n < 0x110000 then Eval.ofString (String.ofList [Text.charOfCode n.toNat])
  else throw (.refused .value "chr() arg not in range(0x110000)")

def codePoint (v : Value) : Eval Value := do
  match v with
  | .str _ s | .bytes _ s =>
    match s.toList with
    | [c] => Eval.ofInt (Text.codeOf c)
    | cs => refuse s!"ord() expected a character, but string of length {cs.length} found"
  | v => refuse ("ord() expected string of length 1, but " ++ (← Eval.kindName v) ++ " found")

/-! ### Going through several values -/

def iterator (kind : String) (items : List Value) : Eval Value := do
  return .iterator kind (← Eval.alloc (.iterator items none))

def sideBySide : (count : Nat) → List (List Value) → Eval (List Value)
  | 0, _ => return []
  | count + 1, columns => do
    match columns.mapM List.head? with
    | some row =>
      let v ← Eval.newTuple row
      return v :: (← sideBySide count (columns.map (List.drop 1)))
    | none => return []

def numbered : (n : Int) → List Value → Eval (List Value)
  | _, [] => return []
  | n, v :: rest => do
    let pair ← Eval.newTuple [← Eval.ofInt n, v]
    return pair :: (← numbered (n + 1) rest)

/-! ### Kinds -/

def classOf (v : Value) : Eval Value := do
  match v with
  | .object addr =>
    match ← Eval.load addr with
    | .record cls _ => return .cls cls
    | _ => return .builtinClass "object"
  | .formula f => return .operation (match f with
    | .symbol _ => "Symbol"
    | .sum _ => "Add"
    | .product _ => "Mul"
    | .power .. => "Pow"
    | .number _ => "Integer"
    | f => f.kindName)
  | v => return .builtinClass (← Eval.kindName v)

def isInstanceOf (v cls : Value) : Eval Bool := do
  match cls, v with
  | .builtinClass "object", _ => return true
  | .builtinClass "int", .bool _ => return true
  | cls, v =>
    let own ← classOf v
    if identical own cls then return true
    else
      match own, cls with
      | .cls a, .cls b => return (← Eval.classInfo a).ancestors.contains (.own b)
      | .cls a, .builtinClass b => return (← Eval.classInfo a).ancestors.contains (.builtin b)
      | _, _ => return false

def isInstance (v cls : Value) : Eval Bool := do
  let among (classes : List Value) : Eval Bool := classes.anyM (isInstanceOf v)
  match cls with
  | .cls _ | .builtinClass _ => isInstanceOf v cls
  | .tuple _ classes | .union _ classes => among classes
  | _ => refuse "isinstance() arg 2 must be a type, a tuple of types, or a union"

def isCallable : Value → Bool
  | .function _ | .cls _ | .builtin _ | .builtinClass _ | .method .. | .operation _ => true
  | _ => false

/-! ### Calls -/

def callPlain (name : String) (args : Arguments) : Eval Value := do
  match name with
  | "len" => do Eval.ofInt (← lengthOf (← single name args))
  | "abs" => do magnitude (← single name args)
  | "sum" => sum args
  | "any" => do return .bool (← anyIs true (← single name args))
  | "all" => do return .bool (!(← anyIs false (← single name args)))
  | "divmod" => do
    let (v, w) ← pair name args
    divMod v w
  | "pow" => do power (← unnamed name args)
  | "round" => do
    match ← unnamed name args with
    | [v] | [v, .none] => round v none
    | [v, k] => do round v (some (← intArgument k))
    | given => refuse s!"round() takes at most 2 arguments ({given.length} given)"
  | "repr" => do Eval.ofString (← Eval.display (← single name args))
  | "ascii" => do
    Eval.ofString (String.ofList (Interpolation.asciiText (← Eval.display (← single name args))))
  | "format" => do
    match ← unnamed name args with
    | [v] => do Eval.ofString (← laidOut (← Eval.shown v) "")
    | [v, .str _ layout] => do Eval.ofString (← laidOut (← Eval.shown v) layout)
    | [_, w] => refuse ("format() argument 2 must be str, not " ++ (← Eval.kindName w))
    | [] => refuse "format expected at least 1 argument, got 0"
    | given => refuse s!"format expected at most 2 arguments, got {given.length}"
  | "bin" => do basedText "0b" 2 (← single name args)
  | "oct" => do basedText "0o" 8 (← single name args)
  | "hex" => do basedText "0x" 16 (← single name args)
  | "chr" => do character (← single name args)
  | "ord" => do codePoint (← single name args)
  | "callable" => do return .bool (isCallable (← single name args))
  | "isinstance" => do
    let (v, cls) ← pair name args
    return .bool (← isInstance v cls)
  | "iter" => do iterator "iterator" (← Eval.itemList (← single name args))
  | "math.gcd" => do Eval.ofInt (← commonDivisor 0 (← unnamed name args))
  | "math.lcm" => do Eval.ofInt (← commonMultiple 1 (← unnamed name args))
  | "math.floor" => do roundTo (fun a b => a.fdiv b) (← single name args)
  | "math.ceil" => do roundTo (fun a b => -((-a).fdiv b)) (← single name args)
  | "math.trunc" => do roundTo (fun a b => a.tdiv b) (← single name args)
  | name => refuse (name ++ "() cannot be evaluated")

def call (apply : Apply) (name : String) (args : Arguments) : Run Value :=
  match name with
  | "min" => extremeOf apply name .lt args
  | "max" => extremeOf apply name .gt args
  | "sorted" => sorted apply args
  | name => callPlain name args

def constructPlain (name : String) (args : Arguments) : Eval Value := do
  match name with
  | "range" => range args
  | "tuple" => do
    match ← atMostOne name args with
    | none => return .tuple 0 []
    | some (.tuple id items) => return .tuple id items
    | some v => do Eval.newTuple (← Eval.itemList v)
  | "list" => do
    match ← atMostOne name args with
    | none => Eval.newList []
    | some v => do Eval.newList (← Eval.itemList v)
  | "set" => do
    match ← atMostOne name args with
    | none => newSet []
    | some v => do newSet (← Eval.itemList v)
  | "dict" => do
    match args.positional with
    | [] => newDict (args.named.map fun (k, v) => (.str 0 k, v))
    | [.dict addr] => do
      newDict ((← Eval.dictEntries addr) ++ args.named.map fun (k, v) => (.str 0 k, v))
    | _ => refuse (name ++ "() cannot be evaluated")
  | "bool" => do
    match ← atMostOne name args with
    | none => return .bool false
    | some v => do return .bool (← Eval.truth v)
  | "int" => do
    match ← atMostOne name args with
    | none => return .int 0 0
    | some v => integer v
  | "float" => do
    match ← atMostOne name args with
    | none => Eval.ofFloat (.zero false)
    | some v => float v
  | "complex" => do
    match ← unnamed name args with
    | [] => Eval.ofNumber (.complex ⟨.zero false, .zero false⟩)
    | [v] =>
      match v.number? with
      | some n =>
        match n.toComplex with
        | .ok z => Eval.ofNumber (.complex z)
        | .error e => throw (.datum (.number e))
      | none => refuse "complex() cannot be evaluated"
    | _ => refuse "complex() cannot be evaluated"
  | "str" => do
    match ← atMostOne name args with
    | none => return .str 0 ""
    | some (.str id s) => return .str id s
    | some v => do Eval.ofString (← Eval.print v)
  | "type" => do classOf (← single name args)
  | "object" => return .plain "object" "<object>"
  | "slice" => do
    match ← unnamed name args with
    | [b] => do return .slice (← Eval.fresh) .none b .none
    | [a, b] => do return .slice (← Eval.fresh) a b .none
    | [a, b, c] => do return .slice (← Eval.fresh) a b c
    | given => refuse s!"slice expected at least 1 argument, got {given.length}"
  | "zip" => do
    let columns ← (← unnamed name args).mapM Eval.itemList
    let count := (columns.map List.length).foldl max 0
    if columns.isEmpty then iterator name [] else iterator name (← sideBySide count columns)
  | "enumerate" => do
    match args.positional with
    | [v] => do iterator name (← numbered 0 (← Eval.itemList v))
    | [v, start] => do iterator name (← numbered (← intArgument start) (← Eval.itemList v))
    | _ => refuse "enumerate() cannot be evaluated"
  | "reversed" => do iterator name (← Eval.itemList (← single name args)).reverse
  | name => refuse (name ++ "() cannot be evaluated")

def construct (apply : Apply) (name : String) (args : Arguments) : Run Value := do
  match name with
  | "map" => do
    match args.positional with
    | f :: rest =>
      let columns ← (rest.mapM Eval.itemList : Eval (List (List Value)))
      let count := (columns.map List.length).foldl max 0
      let rows ← sideBySide count columns
      iterator name (← rows.mapM fun row => do
        match row with
        | .tuple _ items => apply f ⟨items, []⟩
        | v => return v)
    | [] => refuse "map() must have at least two arguments."
  | "filter" => do
    let (f, v) ← pair name args
    iterator name (← (← Eval.itemList v).filterM fun x => do
      match f with
      | .none => Eval.truth x
      | f => do Eval.truth (← apply f ⟨[x], []⟩))
  | name => constructPlain name args

end DataDiagram.Static.Builtin
