import DataDiagram.Source.Expression
/-!
# Literals

Texts that stand for a plain value: numbers with a sign, texts, and what they can be put into.
-/

namespace DataDiagram.Drawing

open Source (Expr)

/-- Why a text is no literal. -/
inductive LiteralError
  | illFormed
  | nullCharacter
  | unencodable (message : String)
  | notLiteral
  | missingKey
  /-- A value cannot be in a set or the key of an entry. -/
  | unhashable (kind : String)
  | arithmetic (e : DatumError)

namespace LiteralError

def message : LiteralError → String
  | illFormed | notLiteral => ""
  | nullCharacter => "source code string cannot contain null bytes"
  | unencodable message => message
  | missingKey => "malformed node or string: None"
  | unhashable kind => s!"unhashable type: '{kind}'"
  | arithmetic e => e.message

def kind : LiteralError → ErrorKind
  | illFormed => .illFormed
  | nullCharacter | notLiteral | missingKey => .value
  | unencodable _ => .encoding
  | unhashable _ => .type
  | arithmetic e => e.kind

end LiteralError

def number? : Expr → Option Datum
  | .constant _ (.int n) => some (.int n)
  | .constant _ (.float x) => some (.float x)
  | .constant _ (.complex z) => some (.complex z)
  | _ => none

def negated (d : Datum) : Datum :=
  match d.number? with
  | some n => .ofNumber n.neg
  | none => d

def signedNumber? : Expr → Option Datum
  | .unary _ .plus e => number? e
  | .unary _ .minus e => (number? e).map negated
  | e => number? e

def required : Option Datum → Except LiteralError Datum
  | some d => .ok d
  | none => .error .notLiteral

/-- A real number with an imaginary one added or taken away. -/
def complexSum (combine : Datum → Datum → Except DatumError Datum) (left right : Option Datum) :
    Except LiteralError Datum :=
  match left, right with
  | some (.complex _), _ => .error .notLiteral
  | some a, some (.complex z) => (combine a (.complex z)).mapError .arithmetic
  | _, _ => .error .notLiteral

def hashable (d : Datum) : Except LiteralError Datum :=
  match d.unhashable? with
  | some kind => .error (.unhashable kind)
  | none => .ok d

def setOf : (acc : List Datum) → List (Except LiteralError Datum) → Except LiteralError Datum
  | acc, [] => .ok (.set acc)
  | acc, d :: rest => do setOf (Datum.putMember acc (← hashable (← d))) rest

def dictOf : (acc : List (Datum × Datum)) → (keys values : List (Except LiteralError Datum)) →
    Except LiteralError Datum
  | acc, k :: keys, v :: values => do
    let key ← k
    let value ← v
    dictOf (Datum.putEntry acc (← hashable key) value) keys values
  | acc, _, _ => .ok (.dict acc)

mutual

def literal : Expr → Except LiteralError Datum
  | .constant _ d => .ok d
  | .tuple _ items _ => do return .tuple (← (literals items).mapM id)
  | .list _ items _ => do return .list (← (literals items).mapM id)
  | .set _ items => setOf [] (literals items)
  | .dict _ keys values => dictOf [] (literalKeys keys) (literals values)
  | .call _ (.name _ "set" _) [] [] => .ok (.set [])
  | .binary _ .add a b => complexSum Datum.add (signedNumber? a) (number? b)
  | .binary _ .sub a b => complexSum Datum.sub (signedNumber? a) (number? b)
  | e => required (signedNumber? e)

def literals : List Expr → List (Except LiteralError Datum)
  | [] => []
  | e :: rest => literal e :: literals rest

def literalKeys : List (Option Expr) → List (Except LiteralError Datum)
  | [] => []
  | none :: rest => .error .missingKey :: literalKeys rest
  | some e :: rest => literal e :: literalKeys rest

end

def readLiteral (text : List Char) : Except LiteralError Datum :=
  let text := text.dropWhile fun c => c == ' ' || c == '\t'
  match Text.surrogateRefusal? text with
  | some message => .error (.unencodable message)
  | none =>
    if text.contains (Char.ofNat 0) then .error .nullCharacter
    else
      match Source.readExpression text with
      | none => .error .illFormed
      | some e => literal e

end DataDiagram.Drawing
