import GenericTypes.Host
import GenericTypes.TypeName

namespace GenericTypes

structure MetadataGraph.Node where
  isInterface : Bool := false
  superclass : Option String := none
  interfaces : List String := []
  enclosing : Option String := none
  typeParams : Nat := 0
  simpleName : Option String := none
  hashCode : Int32 := 0

/-- A name without a node has the metadata of the default node. Where roots are given, they are the
    texts of the handles that count as root. -/
structure MetadataGraph where
  nodes : List (String × MetadataGraph.Node)
  roots : Option (List String)

namespace MetadataGraph

def node (graph : MetadataGraph) (name : String) : Node :=
  (graph.nodes.lookup name).getD {}

structure Vertex (graph : MetadataGraph) where
  typeName : TypeName
deriving DecidableEq, Hashable

variable {graph : MetadataGraph}

def vertex (graph : MetadataGraph) (name : String) : Vertex graph := ⟨.plain name⟩

instance : Handle (Vertex graph) where
  text v := v.typeName.text
  simpleName v := (graph.node v.typeName.element).simpleName.getD v.typeName.element
  hashCode v := (graph.node v.typeName.element).hashCode + .ofNat v.typeName.dims

def Vertex.metadata (v : Vertex graph) : Node :=
  if v.typeName.isArray then {} else graph.node v.typeName.element

def plainHost (graph : MetadataGraph) : Host (Vertex graph) where
  isInterface v := v.metadata.isInterface
  superclass v := v.metadata.superclass.map graph.vertex
  interfaces v := v.metadata.interfaces.map graph.vertex
  enclosing v := v.metadata.enclosing.map graph.vertex
  arity v := v.metadata.typeParams
  arrayHandle v := ⟨v.typeName.array⟩

def host (graph : MetadataGraph) : Host (Vertex graph) :=
  match graph.roots with
  | none => graph.plainHost
  | some roots => { graph.plainHost with isRoot := fun v => roots.contains (Handle.text v) }

/-- Superclasses may form a cycle here, and a walk around it ends only when its visitor stops it.
    One that is not stopped within this many steps is given up. -/
def walkBound : Nat := 1000000

end MetadataGraph

end GenericTypes
