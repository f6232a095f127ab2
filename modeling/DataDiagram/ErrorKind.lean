/-!
# Kinds of errors

What can go wrong is told apart in detail where it happens.  Outside, errors are only known by their
kind and their text.
-/

namespace DataDiagram

/-- The kinds of errors. -/
inductive ErrorKind
  | located
  | illFormed
  | type
  | value
  | name
  | unboundLocal
  | attribute
  | index
  | key
  | zeroDivision
  | overflow
  | memory
  | recursion
  | missingLibrary
  | missingMember
  | abstractOnly
  | assertion
  | encoding
  deriving DecidableEq

end DataDiagram
