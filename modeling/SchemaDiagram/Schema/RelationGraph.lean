/-
# The relation graph of a schema

A directed graph with several edges between two nodes: a node for each entity
name and an edge for each relation, told apart by the field that declares it.
Declaring a node or an edge again replaces what is known of it.

Key definitions: `RelationGraph`, `Schema.relationGraph`,
`RelationGraph.linked`, `Schema.neighbors`.
-/
import SchemaDiagram.Keyed
import SchemaDiagram.Schema.Lookup

namespace SchemaDiagram

/-- Where an edge starts, where it ends, and the field that declares it. -/
structure EdgeKey where
  source : String
  target : String
  field : String
  deriving DecidableEq, Repr

/-- How many fields and options the entity of a node has. -/
structure NodeSize where
  fields : Nat
  options : Nat
  deriving DecidableEq, Repr

/-- Nodes with their sizes, and edges with the type of their field. -/
structure RelationGraph where
  nodes : Keyed String NodeSize
  edges : Keyed EdgeKey String

namespace RelationGraph

def empty : RelationGraph := ⟨.empty, .empty⟩

/-- The graph with the node of an entity. -/
def addNode (g : RelationGraph) (e : Entity) : RelationGraph :=
  { g with nodes := g.nodes.put e.name ⟨e.fields.length, e.options.length⟩ }

/-- The graph with the edge of a relation. -/
def addEdge (g : RelationGraph) (source : String) (r : Relation) : RelationGraph :=
  { g with edges := g.edges.put ⟨source, r.target, r.field⟩ r.type }

/-- The graph of some entities: all nodes, then all edges. -/
def ofEntities (es : List Entity) : RelationGraph :=
  es.foldl (fun g e => e.relations.foldl (fun g r => g.addEdge e.name r) g)
    (es.foldl addNode empty)

/-- An edge joins the two nodes, in either direction. -/
def linked (g : RelationGraph) (a b : String) : Bool :=
  g.edges.keys.any fun k => (k.source == a && k.target == b) || (k.source == b && k.target == a)

/-- Edges are ordered by their ends and then by their field. -/
def EdgeKey.precedes (a b : EdgeKey) : Bool :=
  if a.source ≠ b.source then decide (a.source < b.source)
  else if a.target ≠ b.target then decide (a.target < b.target)
  else !decide (b.field < a.field)

/-- The nodes in the order of their names. -/
def sortedNodes (g : RelationGraph) : List (String × NodeSize) :=
  g.nodes.entries.mergeSort fun a b => !decide (b.1 < a.1)

/-- The edges in the order of their keys. -/
def sortedEdges (g : RelationGraph) : List (EdgeKey × String) :=
  g.edges.entries.mergeSort fun a b => EdgeKey.precedes a.1 b.1

end RelationGraph

namespace Schema

/-- The relation graph of all entities. -/
def relationGraph (s : Schema) : RelationGraph :=
  .ofEntities s.entities

/-- The entities that share an edge with the named one, in declaration order;
an entity is no neighbour of itself. -/
def neighbors (s : Schema) (name : String) : Except Fault (List String) :=
  if s.hasEntity name then
    let g := s.relationGraph
    .ok (s.names.filter fun n => n != name && g.linked name n)
  else .error (.unknownEntity name)

end Schema
end SchemaDiagram
