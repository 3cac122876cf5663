import GenericTypes.Handle
import GenericTypes.Host
import GenericTypes.Text.CodeUnits
import GenericTypes.Terminal.Ranges
import GenericTypes.Terminal.Alphanumeric
import GenericTypes.Text.Escape
import GenericTypes.Terminal.Columns
import GenericTypes.Terminal.LineBreak.Ranges
import GenericTypes.Terminal.LineBreak.Class
import GenericTypes.Terminal.LineBreak.Context
import GenericTypes.TypeName
import GenericTypes.Walk
import GenericTypes.Walk.Visited
import GenericTypes.TypeExpr.Basic
import GenericTypes.TypeExpr.Text
import GenericTypes.TypeExpr.HashCode
import GenericTypes.TypeExpr.Preorder
import GenericTypes.Instantiate
import GenericTypes.ClassTable.Basic
import GenericTypes.ClassTable.Declaration
import GenericTypes.ClassTable.Declare
import GenericTypes.Hierarchy.Chain
import GenericTypes.Hierarchy.Lattice
import GenericTypes.Hierarchy.Ancestors
import GenericTypes.Hierarchy.Subtype
import GenericTypes.Sink
import GenericTypes.MetadataGraph
import GenericTypes.Report.Diagnostic
import GenericTypes.Report.Layout
import GenericTypes.Terminal.Word
import GenericTypes.Terminal.Filling
import GenericTypes.Terminal.Printer
import GenericTypes.Report.Basic
import GenericTypes.Proofs.ClassTable.Acceptance
import GenericTypes.Proofs.ClassTable.Growth
import GenericTypes.Proofs.ClassTable.NativeSupertypes
import GenericTypes.Proofs.ClassTable.Order
import GenericTypes.Proofs.Walk.Offering
import GenericTypes.Proofs.Hierarchy.Chain
import GenericTypes.Proofs.Hierarchy.Ascent
import GenericTypes.Proofs.Hierarchy.Lattice
import GenericTypes.Proofs.Hierarchy.Termination
import GenericTypes.Proofs.ClassTable.Hierarchy
import GenericTypes.Proofs.TypeExpr.Nodes
import GenericTypes.Proofs.Instantiate.WellFormed
import GenericTypes.Proofs.Instantiate.Rebuild
import GenericTypes.Proofs.Walk.Trace
import GenericTypes.Proofs.Hierarchy.Traces
import GenericTypes.Proofs.Walk.Stopping
import GenericTypes.Proofs.Hierarchy.Stopping
import GenericTypes.Proofs.Walk.Distinct
import GenericTypes.Proofs.Hierarchy.Expansion
import GenericTypes.Proofs.Hierarchy.Subtype
import GenericTypes.Proofs.ClassTable.Ancestry
import GenericTypes.Proofs.ClassTable.Subtyping
import GenericTypes.Proofs.ClassTable.Views
import GenericTypes.Proofs.Hierarchy.Roots
import GenericTypes.Proofs.Hierarchy.Agreement
import GenericTypes.Proofs.ClassTable.Conservation
import GenericTypes.Proofs.ClassTable.Rearrangement
import GenericTypes.Proofs.TypeExpr.Preorder
import GenericTypes.Proofs.ClassTable.References
import GenericTypes.Proofs.ClassTable.Clauses
import GenericTypes.Proofs.ClassTable.Requirements
import GenericTypes.Proofs.ClassTable.Session
import GenericTypes.Proofs.Sink.Interleaving
import GenericTypes.Proofs.Sink.Rotation
import GenericTypes.Proofs.ClassTable.Lineages
import GenericTypes.Proofs.Instantiate.Failures
import GenericTypes.Proofs.TypeExpr.OwnerPath
import GenericTypes.Proofs.ClassTable.QualifiedNames
import GenericTypes.Proofs.Instantiate.Arrays
import GenericTypes.Proofs.ClassTable.Superclasses
import GenericTypes.Proofs.TypeExpr.Replacement
import GenericTypes.Proofs.ClassTable.ArrayReferences
import GenericTypes.Proofs.TypeExpr.Reading
import GenericTypes.Proofs.ClassTable.LegibleNames
import GenericTypes.Proofs.ClassTable.Readability
import GenericTypes.Proofs.Text.CodeUnits
import GenericTypes.Proofs.TypeExpr.HashCode
import GenericTypes.Proofs.Text.Escape
import GenericTypes.Proofs.Report.Typesetting
import GenericTypes.Proofs.Report.Colour
import GenericTypes.Proofs.Terminal.Filling
import GenericTypes.Proofs.Terminal.Printer
import GenericTypes.Proofs.Report.Configurations
