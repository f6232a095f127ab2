import DataDiagram.Code.Build
import DataDiagram.Item
import DataDiagram.Proofs.Assignment.Anatomy
import DataDiagram.Proofs.Assignment.Atoms
import DataDiagram.Proofs.Assignment.Meaning
import DataDiagram.Proofs.Code.Arguments
import DataDiagram.Proofs.Code.Binding
import DataDiagram.Proofs.Code.Laws
import DataDiagram.Proofs.Code.Locals
import DataDiagram.Proofs.Code.Nesting
import DataDiagram.Proofs.Code.Returns
import DataDiagram.Proofs.Drawing.Picture
import DataDiagram.Proofs.Hom.Commute
import DataDiagram.Proofs.Hom.Tracing
import DataDiagram.Proofs.Module.Idempotent
import DataDiagram.Proofs.Module.LocalNames
import DataDiagram.Proofs.Module.NameCheck
import DataDiagram.Proofs.Reading.Located
import DataDiagram.Proofs.Reading.Reread
import DataDiagram.Proofs.Reading.Scoping
import DataDiagram.Proofs.Reading.Unroll
