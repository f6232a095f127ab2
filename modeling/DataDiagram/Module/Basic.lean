import DataDiagram.Code.Basic
/-!
# Modules

A module declares variables, classes and functions.  Each of the three tables keeps the order in
which names were first declared, and no name occurs in it twice.
-/

namespace DataDiagram

/-- Declarations that are found by their name. -/
class Named (α : Type) where
  name : α → String

instance : Named Var := ⟨Var.name⟩

instance : Named Class := ⟨Class.name⟩

instance : Named Func := ⟨Func.name⟩

namespace Table

variable {α : Type} [Named α]

def names (table : List α) : List String := table.map Named.name

def find? (table : List α) (name : String) : Option α :=
  List.find? (fun d => Named.name d == name) table

def put : List α → α → List α
  | [], d => [d]
  | e :: rest, d => if Named.name e == Named.name d then d :: rest else e :: put rest d

def putAll (table : List α) (ds : List α) : List α := ds.foldl put table

def ofList (ds : List α) : List α := putAll [] ds


end Table

/-- A module. -/
structure Module where
  vars : List Var
  classes : List Class
  functions : List Func
  deriving Inhabited

namespace Module

def names (m : Module) : List String :=
  (Table.names m.vars ++ Table.names m.classes ++ Table.names m.functions).eraseDups

end Module

end DataDiagram
