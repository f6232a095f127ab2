import DataDiagram.Located
/-!
# Origins

Where a piece of code came from: a file, its lines, and a position in it.  Code that the library
makes itself takes the origin of the code it is made from.
-/

namespace DataDiagram

/-- A place in a text: lines count from one, columns from zero. -/
structure Position where
  line : Int
  column : Int
  deriving DecidableEq, Inhabited

/-- A place in a source file.  The position is missing for what the source does not spell out. -/
structure Origin where
  file : String
  lines : List String
  position : Option Position
  deriving DecidableEq

/-- What can go wrong with code. -/
inductive CodeError
  | located (e : Located)
  | noOrigin (kind part : String)
  | noPosition (kind : String)
  | noSuchLine
  | notAnOrigin (shown : String)
  | notOrigins (shown : String)
  | notBindable (kind : String)
  | cannotSubstitute (shown : String)
  | unknownFunction (name : String)
  | noText
  | abstractCode
  | noMember (kind member : String)
  | notSequence (kind : String)
  | noLength (kind : String)
  | notIndexable (kind : String)
  | notAnIndex (kind : String)
  | noSuchItem
  | notText (index : Nat) (kind : String)
  | notJoinable
  | tooManyDigits
  | notExtensible (kind : String)
  | notCallable (kind : String)
  | callNotFunction (given : Nat)
  | callGivenArguments
  | nestedFunction
  | unknownField (kind field : String)
  | missingFields (kind : String) (fields : List String)
  | classRebuilt
  | unusable (kind : String)
  | unhashable (kind : String)
  deriving Inhabited

namespace Origin

/-- The line of the source with the given number.  Numbers below one count from the end. -/
def lineAt? (lines : List String) (line : Int) : Option String :=
  let i := line - 1
  if 0 ≤ i then lines[i.toNat]?
  else if 0 ≤ i + lines.length then lines[(i + lines.length).toNat]?
  else none

def error (o : Origin) (message : String) : CodeError :=
  match o.position with
  | none => .noPosition "Constant"
  | some p =>
    match lineAt? o.lines p.line with
    | none => .noSuchLine
    | some line => .located ⟨message, o.file, p.line, p.column, some line⟩

end Origin

namespace CodeError

def message : CodeError → String
  | located e => e.text
  | noOrigin kind part => s!"'{kind}' object has no attribute '{part}'"
  | noPosition kind => s!"'{kind}' object has no attribute 'lineno'"
  | noSuchLine => "tuple index out of range"
  | notAnOrigin shown => s!"unexpected argument: srcref[0]={shown}"
  | notOrigins shown => s!"unexpected arguments: srcref={shown}"
  | notBindable kind => s!"{kind}.bind() takes 2 positional arguments but 3 were given"
  | cannotSubstitute shown => s!"cannot substitute with {shown}"
  | unknownFunction name => name
  | noText => ""
  | abstractCode => "abstract method"
  | noMember kind member => s!"'{kind}' object has no attribute '{member}'"
  | notSequence kind => s!"'{kind}' object is not iterable"
  | noLength kind => s!"object of type '{kind}' has no len()"
  | notIndexable kind => s!"'{kind}' object is not subscriptable"
  | notAnIndex kind => s!"tuple indices must be integers or slices, not {kind}"
  | noSuchItem => "tuple index out of range"
  | notText index kind => s!"sequence item {index}: expected str instance, {kind} found"
  | notJoinable => "can only join an iterable"
  | tooManyDigits => Datum.tooLongMessage
  | notExtensible kind => s!"unsupported operand type(s) for +: '{kind}' and 'list'"
  | notCallable kind => s!"'{kind}' object is not callable"
  | callNotFunction given =>
    s!"Code.__call__() takes 1 positional argument but {given} were given"
  | callGivenArguments => "Call.call() takes 5 positional arguments but 6 were given"
  | nestedFunction => "NameCheck.visit_Func() got an unexpected keyword argument 'arg'"
  | unknownField kind field => s!"{kind}.__init__() got an unexpected keyword argument '{field}'"
  | missingFields kind fields =>
    s!"{kind}.__init__() missing {fields.length} required positional argument" ++
      Text.plural fields.length ++ ": " ++ Text.listing fields
  | classRebuilt => "Code.make() got multiple values for argument 'cls'"
  | unusable kind => s!"{kind} cannot be declared like this"
  | unhashable kind => s!"unhashable type: '{kind}'"

def kind : CodeError → ErrorKind
  | located _ => .located
  | noOrigin .. | noPosition _ | noMember .. => .attribute
  | noSuchLine | noSuchItem => .index
  | unknownFunction _ => .key
  | noText | abstractCode => .abstractOnly
  | tooManyDigits => .value
  | notAnOrigin _ | notOrigins _ | notBindable _ | cannotSubstitute _ | notSequence _ | noLength _
  | notIndexable _ | notAnIndex _ | notText .. | notJoinable | notExtensible _ | notCallable _
  | callNotFunction _ | callGivenArguments | nestedFunction | unknownField .. | missingFields ..
  | classRebuilt | unusable _ | unhashable _ => .type

end CodeError

end DataDiagram
