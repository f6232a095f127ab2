import DataDiagram.Datum.Arithmetic
/-!
# Why expressions have no static value

An expression that is evaluated ahead of the program can fail in many ways.
-/

namespace DataDiagram.Static

/-- Why an expression has no static value. -/
inductive StaticError
  | unbound (name : String)
  | unboundLocal (name : String)
  | unboundFree (name : String)
  | datum (e : DatumError)
  | badOperand (op kind : String)
  | notIterable (kind : String)
  | noMembers (kind : String)
  | notCallable (kind : String)
  | notSubscriptable (kind : String)
  | classNotSubscriptable (name : String)
  | notGeneric (text : String)
  | noItemAssignment (kind : String)
  | noLength (kind : String)
  | lengthTooLarge
  | notInteger (kind : String)
  | badIndex (sequence kind : String)
  | badTextIndex (kind : String)
  | indexRange (sequence : String)
  | indexTooLarge
  | noKey (text : String)
  | unhashable (kind : String)
  | zeroStep
  | badBound
  | noAttribute (kind name : String)
  | noClassAttribute (cls name : String)
  | noLibraryAttribute (library name : String)
  | missingArguments (callee : String) (names : List String)
  | missingKeywordArguments (callee : String) (names : List String)
  | tooManyArguments (callee : String) (least most given keywordOnly : Nat)
  | unexpectedKeyword (callee name : String)
  | repeatedArgument (callee name : String)
  | positionalOnly (callee : String) (names : List String)
  | notUnpackable (callee kind : String)
  | notMapping (callee kind : String)
  | starNotIterable (kind : String)
  | tooFewValues (expected given : Nat)
  | tooManyValues (expected : Nat)
  | noLibrary (name : String)
  | notPackage (library parent : String)
  | notImported (name library : String)
  | importedUnderOtherName (name : String)
  | noPackage
  | duplicateBase (name : String)
  | noConsistentOrder (names : List String)
  | mutableDefault (kind field : String)
  | defaultOrder (field : String)
  | recursionLimit
  | tooManyDigits
  | refused (kind : ErrorKind) (message : String)
  deriving DecidableEq

namespace StaticError

def arityText (least most : Nat) : String :=
  if least == most then toString most ++ " positional argument" ++ Text.plural most
  else "from " ++ toString least ++ " to " ++ toString most ++ " positional arguments"

/-- How many arguments a function has been given; arguments by name are told apart if there are some
that can be given by name only. -/
def givenText (given keywordOnly : Nat) : String :=
  if keywordOnly == 0 then s!"{given} " ++ (if given == 1 then "was" else "were") ++ " given"
  else
    s!"{given} positional argument" ++ Text.plural given ++
      s!" (and {keywordOnly} keyword-only argument" ++ Text.plural keywordOnly ++ ") were given"

def message : StaticError → String
  | unbound name => s!"name '{name}' is not defined"
  | unboundLocal name =>
    s!"cannot access local variable '{name}' where it is not associated with a value"
  | unboundFree name =>
    s!"cannot access free variable '{name}' where it is not associated with a value in " ++
      "enclosing scope"
  | datum e => e.message
  | badOperand op kind => s!"bad operand type for {op}: '{kind}'"
  | notIterable kind => s!"'{kind}' object is not iterable"
  | noMembers kind => s!"argument of type '{kind}' is not iterable"
  | notCallable kind => s!"'{kind}' object is not callable"
  | notSubscriptable kind => s!"'{kind}' object is not subscriptable"
  | classNotSubscriptable name => s!"type '{name}' is not subscriptable"
  | notGeneric text => s!"{text} is not a generic class"
  | noItemAssignment kind => s!"'{kind}' object does not support item assignment"
  | noLength kind => s!"object of type '{kind}' has no len()"
  | lengthTooLarge => "Python int too large to convert to C ssize_t"
  | notInteger kind => s!"'{kind}' object cannot be interpreted as an integer"
  | badIndex sequence kind => s!"{sequence} indices must be integers or slices, not {kind}"
  | badTextIndex kind => s!"string indices must be integers, not '{kind}'"
  | indexRange sequence =>
    if sequence.isEmpty then "index out of range" else s!"{sequence} index out of range"
  | indexTooLarge => DatumError.countTooLarge.message
  | noKey text => text
  | unhashable kind => s!"unhashable type: '{kind}'"
  | zeroStep => "slice step cannot be zero"
  | badBound => "slice indices must be integers or None or have an __index__ method"
  | noAttribute kind name => s!"'{kind}' object has no attribute '{name}'"
  | noClassAttribute cls name => s!"type object '{cls}' has no attribute '{name}'"
  | noLibraryAttribute library name => s!"module '{library}' has no attribute '{name}'"
  | missingArguments callee names =>
    s!"{callee}() missing {names.length} required positional argument" ++
      Text.plural names.length ++ ": " ++ Text.listing names
  | missingKeywordArguments callee names =>
    s!"{callee}() missing {names.length} required keyword-only argument" ++
      Text.plural names.length ++ ": " ++ Text.listing names
  | tooManyArguments callee least most given keywordOnly =>
    s!"{callee}() takes " ++ arityText least most ++ " but " ++ givenText given keywordOnly
  | unexpectedKeyword callee name => s!"{callee}() got an unexpected keyword argument '{name}'"
  | repeatedArgument callee name => s!"{callee}() got multiple values for argument '{name}'"
  | positionalOnly callee names =>
    s!"{callee}() got some positional-only arguments passed as keyword arguments: '" ++
      ", ".intercalate names ++ "'"
  | notUnpackable callee kind => s!"{callee} argument after * must be an iterable, not {kind}"
  | notMapping callee kind => s!"{callee} argument after ** must be a mapping, not {kind}"
  | starNotIterable kind => s!"Value after * must be an iterable, not {kind}"
  | tooFewValues expected given =>
    s!"not enough values to unpack (expected {expected}, got {given})"
  | tooManyValues expected => s!"too many values to unpack (expected {expected})"
  | noLibrary name => s!"No module named '{name}'"
  | notPackage library parent => s!"No module named '{library}'; '{parent}' is not a package"
  | notImported name library => s!"cannot import name '{name}' from '{library}' (unknown location)"
  | importedUnderOtherName name => Text.quote name
  | noPackage => "\"'__name__' not in globals\""
  | duplicateBase name => s!"duplicate base class {name}"
  | noConsistentOrder names =>
    "Cannot create a consistent method resolution\norder (MRO) for bases " ++ ", ".intercalate names
  | mutableDefault kind field =>
    s!"mutable default <class '{kind}'> for field {field} is not allowed: use default_factory"
  | defaultOrder field => s!"non-default argument {Text.quote field} follows default argument"
  | recursionLimit => "maximum recursion depth exceeded"
  | tooManyDigits => Datum.tooLongMessage
  | refused _ message => message

def kind : StaticError → ErrorKind
  | unbound _ | unboundFree _ => .name
  | unboundLocal _ => .unboundLocal
  | datum e => e.kind
  | lengthTooLarge => .overflow
  | indexRange _ | indexTooLarge => .index
  | noKey _ | importedUnderOtherName _ | noPackage => .key
  | zeroStep | tooFewValues .. | tooManyValues _ | mutableDefault .. | tooManyDigits => .value
  | noAttribute .. | noClassAttribute .. | noLibraryAttribute .. => .attribute
  | noLibrary _ | notPackage .. => .missingLibrary
  | notImported .. => .missingMember
  | recursionLimit => .recursion
  | refused kind _ => kind
  | _ => .type

end StaticError

end DataDiagram.Static
