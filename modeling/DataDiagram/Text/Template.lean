import DataDiagram.Text.Layout
import DataDiagram.Text.Member
import DataDiagram.Text.Quoted
/-!
# Templates

A template is a text with replacement fields between braces.  A field names a position (or takes the
next one), may look inside the value by attribute or index, may convert the value and may state how
to lay it out.  Doubled braces stand for themselves.  Templates are filled with a list of texts.
-/

namespace DataDiagram.Text

/-- Why a template cannot be filled. -/
inductive TemplateError
  | loneClose
  | loneOpen
  | openInName
  | unclosedField
  | missingConversion
  | textAfterConversion
  | unclosedLayout
  | unknownConversion (c : Char)
  | autoAfterManual
  | manualAfterAuto
  | emptyAttribute
  | unclosedIndex
  | textAfterIndex
  | nestedTooDeep
  | unknownName (name : String)
  | missingPosition (index : Nat)
  | missingAttribute (holder name : String)
  | badIndex
  | notIndexable (holder : String)
  | indexTooLarge
  /-- A value cannot be laid out, or a number is too large. -/
  | layout (e : LayoutError)
  deriving DecidableEq

namespace TemplateError

def message : TemplateError → String
  | loneClose => "Single '\x7d' encountered in format string"
  | loneOpen => "Single '\x7b' encountered in format string"
  | openInName => "unexpected '\x7b' in field name"
  | unclosedField => "expected '\x7d' before end of string"
  | missingConversion => "end of string while looking for conversion specifier"
  | textAfterConversion => "expected ':' after conversion specifier"
  | unclosedLayout => "unmatched '\x7b' in format spec"
  | unknownConversion c =>
    if 32 < c.toNat && c.toNat < 127 then s!"Unknown conversion specifier {c}"
    else "Unknown conversion specifier \\x" ++ String.ofList (Nat.toDigits 16 (codeOf c))
  | autoAfterManual =>
    "cannot switch from manual field specification to automatic field numbering"
  | manualAfterAuto =>
    "cannot switch from automatic field numbering to manual field specification"
  | emptyAttribute => "Empty attribute in format string"
  | unclosedIndex => "Missing ']' in format string"
  | textAfterIndex => "Only '.' or '[' may follow ']' in format field specifier"
  | nestedTooDeep => "Max string recursion exceeded"
  | unknownName name => name
  | missingPosition index =>
    s!"Replacement index {index} out of range for positional args tuple"
  | missingAttribute holder name => s!"{holder} has no attribute '{name}'"
  | badIndex => "string indices must be integers, not 'str'"
  | notIndexable holder => s!"{holder} is not subscriptable"
  | indexTooLarge => "string index out of range"
  | layout e => e.message

def kind : TemplateError → ErrorKind
  | unknownName _ => .key
  | missingPosition _ | indexTooLarge => .index
  | missingAttribute .. => .attribute
  | badIndex | notIndexable _ => .type
  | layout e => e.kind
  | _ => .value

end TemplateError

/-- A replacement field as written. -/
structure TemplateField where
  name : List Char
  conversion : Option Char
  layout : List Char
  nested : Bool
  deriving DecidableEq

/-- How positions have been named so far. -/
inductive FieldNumbering
  | undecided
  | automatic (next : Nat)
  | manual
  deriving DecidableEq

/-- Reads a layout up to the brace that closes its field, `depth` being the number of braces open
inside it. -/
def scanLayout (depth : Nat) (nested : Bool) (seen : List Char) :
    List Char → Except TemplateError (List Char × Bool × List Char)
  | [] => .error .unclosedLayout
  | '{' :: rest => scanLayout (depth + 1) true ('{' :: seen) rest
  | '}' :: rest =>
    match depth with
    | 0 => .ok (seen.reverse, nested, rest)
    | depth + 1 => scanLayout depth nested ('}' :: seen) rest
  | c :: rest => scanLayout depth nested (c :: seen) rest

/-- Reads what follows the name of a field that is ended by an exclamation mark. -/
def scanConversion (name : List Char) :
    List Char → Except TemplateError (TemplateField × List Char)
  | [] => .error .missingConversion
  | [_] => .error .unclosedLayout
  | conversion :: '}' :: rest => .ok (⟨name, some conversion, [], false⟩, rest)
  | conversion :: ':' :: rest => do
    let (layout, nested, rest) ← scanLayout 0 false [] rest
    return (⟨name, some conversion, layout, nested⟩, rest)
  | _ :: _ :: _ => .error .textAfterConversion

/-- Reads a field after its opening brace; `bracket` says that an index has been opened and not
closed yet. -/
def scanField (bracket : Bool) (seen : List Char) :
    List Char → Except TemplateError (TemplateField × List Char)
  | [] => .error .unclosedField
  | c :: rest =>
    if bracket then
      scanField (c != ']') (c :: seen) rest
    else if c == '{' then .error .openInName
    else if c == '[' then scanField true (c :: seen) rest
    else if c == '}' then .ok (⟨seen.reverse, none, [], false⟩, rest)
    else if c == ':' then do
      let (layout, nested, rest) ← scanLayout 0 false [] rest
      return (⟨seen.reverse, none, layout, nested⟩, rest)
    else if c == '!' then scanConversion seen.reverse rest
    else scanField false (c :: seen) rest

/-- The first piece of a template, up to the first brace, and what follows.  `seen` is the reversed
literal text under way; a doubled brace ends it. -/
def nextPiece (seen : List Char) :
    List Char → Except TemplateError (List Char × Option TemplateField × List Char)
  | [] => .ok (seen.reverse, none, [])
  | '}' :: '}' :: rest => .ok (('}' :: seen).reverse, none, rest)
  | '}' :: _ => .error .loneClose
  | ['{'] => .error .loneOpen
  | '{' :: '{' :: rest => .ok (('{' :: seen).reverse, none, rest)
  | '{' :: rest => do
    let (f, rest) ← scanField false [] rest
    return (seen.reverse, some f, rest)
  | c :: rest => nextPiece (c :: seen) rest

def fieldIndex? (name : List Char) : Except TemplateError (Option Nat) := do
  let digits := name.takeWhile fun c => (decimalValue? c).isSome
  let number ← (boundedNumber? digits).mapError .layout
  return if digits.length == name.length then number else none

/-- One step into a value: an attribute or an index. -/
inductive FieldStep
  | attribute (name : List Char)
  | index (name : List Char)
  deriving DecidableEq

/-- Takes one step off what follows the first part of a field's name. -/
def nextStep : List Char → Except TemplateError (FieldStep × List Char)
  | '.' :: rest =>
    let name := rest.takeWhile fun c => c != '.' && c != '['
    if name.isEmpty then .error .emptyAttribute
    else .ok (.attribute name, rest.drop name.length)
  | '[' :: rest =>
    let name := rest.takeWhile (· != ']')
    match rest.drop name.length with
    | [] => .error .unclosedIndex
    | _ :: rest => do
      let _ ← fieldIndex? name
      if name.isEmpty then .error .emptyAttribute else .ok (.index name, rest)
  | _ => .error .textAfterIndex

/-- What a field stands for: a text, or a member of one. -/
inductive FieldValue
  | text (s : List Char)
  | member (m : Member)
  deriving DecidableEq

namespace FieldValue

def ofMember : Member → FieldValue
  | .description => text "str".toList
  | m => member m

def holder : FieldValue → String
  | text _ => "'str' object"
  | member .textClass => "type object 'str'"
  | member m => s!"'{m.kindName}' object"

def memberAt (v : FieldValue) (name : String) : Except TemplateError FieldValue :=
  let found := match v with
    | text _ => Member.ofText? name
    | member m => m.member? name
  match found with
  | some m => .ok (ofMember m)
  | none => .error (.missingAttribute v.holder name)

def item (v : FieldValue) (name : List Char) : Except TemplateError FieldValue := do
  let index ← fieldIndex? name
  match v, index with
  | text _, none => .error .badIndex
  | text s, some i =>
    match s[i]? with
    | none => .error .indexTooLarge
    | some c => .ok (text [c])
  | member .textClass, _ => .error (.notIndexable "type 'str'")
  | v, _ => .error (.notIndexable v.holder)

end FieldValue

def followSteps : (fuel : Nat) → FieldValue → List Char → Except TemplateError FieldValue
  | 0, value, _ => .ok value
  | _ + 1, value, [] => .ok value
  | fuel + 1, value, path => do
    let (step, rest) ← nextStep path
    match step with
    | .attribute name => do followSteps fuel (← value.memberAt (String.ofList name)) rest
    | .index name => do followSteps fuel (← value.item name) rest

def fieldPosition (first : List Char) (numbering : FieldNumbering) :
    Except TemplateError (Option Nat × FieldNumbering) := do
  let index ← fieldIndex? first
  if first.isEmpty then
    match numbering with
    | .undecided => return (some 0, .automatic 1)
    | .automatic next => return (some next, .automatic (next + 1))
    | .manual => throw .autoAfterManual
  else
    match index, numbering with
    | none, numbering => return (none, numbering)
    | some _, .automatic _ => throw .manualAfterAuto
    | some i, _ => return (some i, .manual)

def fieldValue (args : List (List Char)) (name : List Char) (numbering : FieldNumbering) :
    Except TemplateError (FieldValue × FieldNumbering) := do
  let first := name.takeWhile fun c => c != '.' && c != '['
  let (position, numbering) ← fieldPosition first numbering
  match position with
  | none => .error (.unknownName (String.ofList first))
  | some i =>
    match args[i]? with
    | none => .error (.missingPosition i)
    | some value => do
      let value ← followSteps name.length (.text value) (name.drop first.length)
      return (value, numbering)

def convert (value : FieldValue) : Option Char → Except TemplateError FieldValue
  | none => .ok value
  | some 's' =>
    match value with
    | .text s => .ok (.text s)
    | .member m => .ok (.text m.kindName.toList)
  | some 'r' =>
    match value with
    | .text s => .ok (.text (quoted s))
    | .member m => .ok (.text m.kindName.toList)
  | some 'a' =>
    match value with
    | .text s => .ok (.text (quotedAscii s))
    | .member m => .ok (.text m.kindName.toList)
  | some c => .error (.unknownConversion c)

def layOutValue (value : FieldValue) (layout : List Char) : Except TemplateError (List Char) :=
  match value with
  | .text s => (layOut s layout).mapError .layout
  | .member m =>
    if layout.isEmpty then .ok m.kindName.toList else .error (.layout (.noLayout m.kindName))

/-- Fills a template, `depth` bounding how deep layouts may hold fields and `fuel` the number of
pieces. -/
def fillFrom (args : List (List Char)) :
    (depth fuel : Nat) → FieldNumbering → List Char →
      Except TemplateError (List Char × FieldNumbering)
  | 0, _, _, _ => .error .nestedTooDeep
  | _ + 1, 0, numbering, _ => .ok ([], numbering)
  | depth + 1, fuel + 1, numbering, template =>
    if template.isEmpty then .ok ([], numbering) else do
    let (literal, field, rest) ← nextPiece [] template
    let (shown, numbering) ← match field with
      | none => pure ([], numbering)
      | some f => do
        let (value, numbering) ← fieldValue args f.name numbering
        let value ← convert value f.conversion
        let (layout, numbering) ←
          if f.nested then fillFrom args depth f.layout.length numbering f.layout
          else pure (f.layout, numbering)
        let value ← layOutValue value layout
        pure (value, numbering)
    let (after, numbering) ← fillFrom args (depth + 1) fuel numbering rest
    return (literal ++ shown ++ after, numbering)

def fill (template arg : List Char) : Except TemplateError (List Char) :=
  (·.1) <$> fillFrom [arg] 2 (template.length + 1) .undecided template

/-- Replaces every occurrence of `old` by `new`, from left to right, `skip` characters of an
occurrence being still to be dropped. -/
def replaceFrom (old new : List Char) (skip : Nat) : List Char → List Char
  | [] => []
  | c :: rest =>
    match skip with
    | skip + 1 => replaceFrom old new skip rest
    | 0 =>
      if !old.isEmpty && old.isPrefixOf (c :: rest) then
        new ++ replaceFrom old new (old.length - 1) rest
      else c :: replaceFrom old new 0 rest

/-- Replaces every occurrence of `old` by `new`, from left to right and without overlap. -/
def replaceAll (old new s : List Char) : List Char := replaceFrom old new 0 s

end DataDiagram.Text
