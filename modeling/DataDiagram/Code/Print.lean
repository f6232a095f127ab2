import DataDiagram.Code.Display
/-!
# Printed code

The text of code in the concrete syntax of the language.  Operands that are operations stand between
parentheses.  Statements and declarations are indented lines.
-/

namespace DataDiagram

abbrev PrintedLine := Nat × String

def deeper (lines : List PrintedLine) : List PrintedLine := lines.map fun l => (l.1 + 1, l.2)

/-- Printed lines as a text: `lead` and four blanks for each level before every line. -/
def linesText (lead : String) (lines : List PrintedLine) : String :=
  String.join (lines.map fun l =>
    lead ++ String.ofList (List.replicate (4 * l.1) ' ') ++ l.2 ++ "\n")

/-- Printed code: the text of an expression, or the lines of a statement or a declaration. -/
inductive Printed
  | inline (text : String)
  | lines (lines : List PrintedLine)

namespace Printed

/-- Printed code as a text, with `lead` before every line. -/
def textWith (lead : String) : Printed → String
  | inline text => text
  | lines ls => linesText lead ls

def text (p : Printed) : String := p.textWith ""

def toLines : Printed → List PrintedLine
  | inline text => [(0, text)]
  | lines ls => ls

end Printed

namespace Code

def operandText (c : Code) (text : String) : String :=
  if c.isOp then "(" ++ text ++ ")" else text

def opText (op : String) : List String → String
  | [operand] => op ++ " " ++ operand
  | operands => (" " ++ op ++ " ").intercalate operands

/-- The lines of a choice from the lines of its branches; a branch without statements is left out,
and a choice that has only the second branch is printed negated. -/
def condLines (test : Code) (text : String) (body orelse : Option (List PrintedLine)) :
    List PrintedLine :=
  match body, orelse with
  | none, none => []
  | some a, none => (0, "if " ++ text ++ ":") :: deeper a
  | some a, some b => (0, "if " ++ text ++ ":") :: deeper a ++ (0, "else:") :: deeper b
  | none, some b => (0, "if not " ++ operandText test text ++ ":") :: deeper b

/-- The texts that some items have to be; `start` is the number of the first one. -/
def textsFrom : (start : Nat) → List Code → Except CodeError (List String)
  | _, [] => .ok []
  | start, text s :: rest => do return s :: (← textsFrom (start + 1) rest)
  | start, c :: _ => .error (.notText start c.kindName)

/-- The texts that a sequence holds, joined with `sep` between them. -/
def joinTexts (sep : String) (items : List Code) : Except CodeError String := do
  return sep.intercalate (← textsFrom 0 items)

def listed (c : Code) : Except CodeError String :=
  match c.items? with
  | some items => joinTexts ", " items
  | none => .error .notJoinable

def printedAs (c : Code) (printed : String) : Code :=
  match c with
  | name _ id => id
  | _ => text printed

def declaredNames (c : Code) : Except CodeError String := do
  joinTexts ", " (← (← c.items).mapM declaredName)

mutual

def print : Code → Except CodeError Printed
  | datum d => .error (.noMember d.kind "py")
  | tuple _ => .error (.noMember "tuple" "py")
  | const _ v => do return .inline (← v.displayed)
  | op _ o cs => do
    let operands ← printOperands cs
    return .inline (opText (← o.shown) operands)
  | name _ id => do return .inline (← id.shown)
  | attr _ v a => do
    let base ← print v
    return .inline (operandText v base.text ++ "." ++ (← a.shown))
  | item _ v i => do
    let base ← print v
    let index ← print i
    return .inline (operandText v base.text ++ "[" ++ index.text ++ "]")
  | call _ f as => do
    let func ← f.shown
    let args ← joinTexts ", " (← printArguments as)
    return .inline (func ++ "(" ++ args ++ ")")
  | bare _ _ | block _ _ => .error .noText
  | pass _ => .ok (.lines [(0, "pass")])
  | assign _ t v o => do
    let target ← print t
    let aug ← if o.truth then o.shown else pure ""
    let value ← print v
    return .lines [(0, target.text ++ " " ++ aug ++ "= " ++ value.text)]
  | cond _ t a b =>
    if a.truth || b.truth then do
      let test ← print t
      let body ← if a.truth then some <$> printBody a else pure none
      let orelse ← if b.truth then some <$> printBody b else pure none
      return .lines (condLines t test.text body orelse)
    else .ok (.lines [])
  | ret _ nothing => .ok (.lines [(0, "return")])
  | ret _ v => do return .lines [(0, "return " ++ (← print v).text)]
  | bareCall _ c => do
    let printed ← print c
    return .lines [(0, ← joinTexts " " [printedAs c printed.text])]
  | var _ n t _ i => do
    return .lines [(0, (← n.shown) ++ ": " ++ (← t.shown) ++ " = " ++ (← i.shown))]
  | cls _ n fs ps => do
    let parents ← if ps.truth then (fun s => "(" ++ s ++ ")") <$> ps.listed else pure ""
    let head := "class " ++ (← n.shown) ++ parents ++ ":"
    let fields ← printBody fs
    return .lines ((0, "@dataclass") :: (0, head) :: deeper fields)
  | func _ n as b gs ls => do
    let args ← as.listed
    let head := (0, "def " ++ (← n.shown) ++ "(" ++ args ++ "):")
    let globals ← if gs.truth then (fun s => [(1, "global " ++ s)]) <$> gs.declaredNames
        else pure []
    let locals ← printBody ls
    let body ← printBody b
    return .lines (head :: globals ++ deeper locals ++ deeper body)

def printOperands : Code → Except CodeError (List String)
  | tuple items => printOperandList items
  | datum (.str s) => if s.isEmpty then .ok [] else .error (.noMember "str" "py")
  | c => .error (.noLength c.kindName)

def printOperandList : List Code → Except CodeError (List String)
  | [] => .ok []
  | c :: rest => do
    let first ← print c
    let more ← printOperandList rest
    return operandText c first.text :: more

def printArguments : Code → Except CodeError (List Code)
  | tuple items => printArgumentList items
  | block _ body => printArgumentList body
  | datum (.str s) => if s.isEmpty then .ok [] else .error (.noMember "str" "py")
  | c => .error (.notSequence c.kindName)

def printArgumentList : List Code → Except CodeError (List Code)
  | [] => .ok []
  | c :: rest => do
    let first ← print c
    let more ← printArgumentList rest
    return printedAs c first.text :: more

def printBody : Code → Except CodeError (List PrintedLine)
  | tuple items => printLines items
  | block _ body => printLines body
  | datum (.str s) => if s.isEmpty then .ok [] else .error (.noMember "str" "_py")
  | c => .error (.notSequence c.kindName)

def printLines : List Code → Except CodeError (List PrintedLine)
  | [] => .ok []
  | s :: rest =>
    if s.isCompound then do
      let first ← print s
      let more ← printLines rest
      return first.toLines ++ more
    else .error (.noMember s.kindName "_py")

end

/-- What printing a piece of code gives, with `lead` before every line of a statement or a
declaration. -/
def printWith (lead : String) (c : Code) : Except CodeError Code := do
  let printed ← c.print
  return c.printedAs (printed.textWith lead)

def source (c : Code) : Except CodeError String := do return (← c.print).text

end Code

end DataDiagram
