import DataDiagram.Code.Print
import DataDiagram.Module.Basic
/-!
# Printed modules

The text of a module: classes, then variables, then functions, each in the order of their lines in
the source.
-/

namespace DataDiagram

namespace Module

def sourceLine (kind : String) (ref : Option Origin) : Except CodeError Int :=
  match ref with
  | none => .error (.noOrigin kind "__ast__")
  | some o =>
    match o.position with
    | none => .error (.noPosition kind)
    | some p => .ok p.line

def byLine {α : Type} (kind : String) (ref : α → Option Origin) (ds : List α) :
    Except CodeError (List α) := do
  let keyed ← ds.mapM fun d => do return (← sourceLine kind (ref d), d)
  return (keyed.mergeSort fun a b => a.1 ≤ b.1).map Prod.snd

/-- Groups of lines one after the other, with an empty line between two if they are `apart`. -/
def joinLines (apart : Bool) : List (List PrintedLine) → List PrintedLine
  | [] => []
  | [group] => group
  | group :: rest => group ++ (if apart then [(0, "")] else []) ++ joinLines apart rest

def sectionLines (apart : Bool) (groups : List (List PrintedLine)) : List PrintedLine :=
  if groups.isEmpty then [] else (0, "") :: joinLines apart groups

def declarationLines (c : Code) : Except CodeError (List PrintedLine) := do
  return (← c.print).toLines

def lines (m : Module) : Except CodeError (List PrintedLine) := do
  let classes ← (← byLine "Class" Class.ref m.classes).mapM fun c => declarationLines c.code
  let vars ← (← byLine "Var" Var.ref m.vars).mapM fun v => declarationLines v.code
  let functions ← (← byLine "Func" Func.ref m.functions).mapM fun f => declarationLines f.code
  return (0, "from dataclasses import dataclass") ::
    (sectionLines true classes ++ sectionLines false vars ++ sectionLines true functions)

/-- The text of a module, with `lead` before every line. -/
def textWith (lead : String) (m : Module) : Except CodeError String := do
  return linesText lead (← m.lines)

def text (m : Module) : Except CodeError String := m.textWith ""

end Module

end DataDiagram
