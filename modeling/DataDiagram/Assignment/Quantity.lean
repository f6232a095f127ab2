import DataDiagram.Assignment.Structure
import DataDiagram.ErrorKind
/-!
# Quantities

Right sides are evaluated to quantities, in an algebra of which little is known.  Of a quantity it
is only looked at whether it is an integer, a symbol, a product or a sum, and what it consists of.
-/

namespace DataDiagram.Assignment

/-- What is raised when a value is made, looked at or written. -/
structure Raised where
  kind : ErrorKind
  message : String
  deriving DecidableEq

/-- What a right side evaluates to.  A quantity that is no linear form is shown by its text, if it
can be written. -/
inductive Quantity
  | integer (n : Int)
  | symbol (name : String)
  | product (factors : List Quantity) (text : Except Raised String)
  | sum (terms : List Quantity) (text : Except Raised String)
  | other (text : Except Raised String)

/-- How the evaluation of a right side ends. -/
inductive Evaluated
  | quantity (q : Quantity)
  /-- A value that is no quantity; `what` says what it is, and `member` what it lacks. -/
  | foreign (what member : String)
  | failed
  /-- What is not caught, or is raised by the value when it is looked at. -/
  | raised (e : Raised)

/-- How right sides are evaluated, where `σ` is what they leave behind for those that follow. -/
structure Algebra (σ : Type) where
  /-- Symbols for variables. -/
  start : (names : List String) → σ
  evaluate : (right : List Atom) → StateM σ Evaluated

end DataDiagram.Assignment
