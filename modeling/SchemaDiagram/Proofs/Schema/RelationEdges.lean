/-
# Edges of the relation graph

The graph of a schema takes in the relations of all declarations one after the other,
each under the names of its ends and of its field. A relation that shares all three
with an earlier one replaces it. So there is an edge for each relation exactly if no
name declares two fields of one name that point to one entity; otherwise only the last
of them has its type in the graph, and there are fewer edges than relations.

Key definitions: `relationEdges`, `RelationGraph.declaredNodes`, `RelationGraph.Keeps`.
Key theorems: `RelationGraph.ofEntities_eq`, `RelationGraph.keeps_ofEntities`,
`Schema.keeps_relationGraph`.
-/
import SchemaDiagram.Proofs.Keyed
import SchemaDiagram.Schema.RelationGraph

namespace SchemaDiagram

/-- The edges that some entities declare, with the types of their fields, in order. -/
def relationEdges (es : List Entity) : List (EdgeKey × String) :=
  es.flatMap fun e => e.relations.map fun r => (⟨e.name, r.target, r.field⟩, r.type)

theorem length_relationEdges (es : List Entity) :
    (relationEdges es).length = Summary.total (·.relations.length) es := by
  induction es with
  | nil => rfl
  | cons e es ih =>
    rw [Summary.total, ← ih, relationEdges, List.flatMap_cons, List.length_append,
      List.length_map, relationEdges]

namespace RelationGraph

/-- The nodes that some entities declare, with their sizes, in order. -/
def declaredNodes (es : List Entity) : List (String × NodeSize) :=
  es.map fun e => (e.name, ⟨e.fields.length, e.options.length⟩)

theorem foldl_addNode (es : List Entity) (g : RelationGraph) :
    es.foldl addNode g =
      ⟨(declaredNodes es).foldl (fun m d => m.put d.1 d.2) g.nodes, g.edges⟩ := by
  induction es generalizing g with
  | nil => rfl
  | cons e es ih => exact ih (g.addNode e)

theorem foldl_addEdge (name : String) (rs : List Relation) (g : RelationGraph) :
    rs.foldl (fun g r => g.addEdge name r) g =
      ⟨g.nodes, (rs.map fun r => (⟨name, r.target, r.field⟩, r.type)).foldl
        (fun m d => m.put d.1 d.2) g.edges⟩ := by
  induction rs generalizing g with
  | nil => rfl
  | cons r rs ih => exact ih (g.addEdge name r)

theorem foldl_addEdges (es : List Entity) (g : RelationGraph) :
    es.foldl (fun g e => e.relations.foldl (fun g r => g.addEdge e.name r) g) g =
      ⟨g.nodes, (relationEdges es).foldl (fun m d => m.put d.1 d.2) g.edges⟩ := by
  induction es generalizing g with
  | nil => rfl
  | cons e es ih =>
    rw [List.foldl_cons, ih, foldl_addEdge, relationEdges, relationEdges, List.flatMap_cons,
      List.foldl_append]

/-- The nodes and the edges of a graph are the declared ones put one after the other. -/
theorem ofEntities_eq (es : List Entity) :
    ofEntities es = ⟨.ofList (declaredNodes es), .ofList (relationEdges es)⟩ := by
  rw [ofEntities, foldl_addEdges, foldl_addNode]
  rfl

/-- What a graph keeps of declared edges. -/
structure Keeps (g : RelationGraph) (ds : List (EdgeKey × String)) : Prop where
  /-- Exactly the declared edges are there. -/
  keys_eq : g.edges.keys = (ds.map (·.1)).eraseDups
  /-- An edge has the type of the last field that declares it. -/
  find?_eq : ∀ k, g.edges.find? k = (ds.filter (·.1 = k)).getLast?.map (·.2)
  length_le : g.edges.entries.length ≤ ds.length
  /-- All declarations have edges of their own, with their types, unless one edge is
  declared twice. -/
  entries_eq_iff : g.edges.entries = ds ↔ (ds.map (·.1)).Nodup
  length_eq_iff : g.edges.entries.length = ds.length ↔ (ds.map (·.1)).Nodup

theorem keeps_ofEntities (es : List Entity) : (ofEntities es).Keeps (relationEdges es) := by
  constructor <;> rw [ofEntities_eq]
  · exact Keyed.keys_ofList _
  · exact Keyed.find?_ofList _
  · exact Keyed.length_ofList_le _
  · exact Keyed.entries_ofList_eq_iff _
  · exact Keyed.length_ofList_eq_iff _

theorem mem_nodes_ofEntities {es : List Entity} {n : String} :
    n ∈ (ofEntities es).nodes.keys ↔ n ∈ es.map (·.name) := by
  rw [ofEntities_eq, Keyed.mem_keys_ofList, declaredNodes, List.map_map]
  rfl

theorem mem_edges_ofEntities {es : List Entity} {k : EdgeKey} :
    k ∈ (ofEntities es).edges.keys ↔
      ∃ e ∈ es, ∃ r ∈ e.relations, k = ⟨e.name, r.target, r.field⟩ := by
  rw [ofEntities_eq, Keyed.mem_keys_ofList]
  simp [relationEdges, eq_comm]

end RelationGraph

namespace Schema

/-- **What the relation graph keeps**, whatever the text: an edge of the right type for
each relation exactly if no edge is declared twice. Then there are as many edges as the
summary counts relations, and fewer otherwise. Every edge joins two nodes. -/
theorem keeps_relationGraph (source : String) :
    (parse source).relationGraph.Keeps (relationEdges (parse source).entities) ∧
      (relationEdges (parse source).entities).length = (parse source).summary.relations ∧
      ∀ k ∈ (parse source).relationGraph.edges.keys,
        k.source ∈ (parse source).relationGraph.nodes.keys ∧
          k.target ∈ (parse source).relationGraph.nodes.keys := by
  refine ⟨RelationGraph.keeps_ofEntities _, length_relationEdges _, fun k hk => ?_⟩
  obtain ⟨e, he, r, hr, rfl⟩ := RelationGraph.mem_edges_ofEntities.1 hk
  exact ⟨RelationGraph.mem_nodes_ofEntities.2 (List.mem_map_of_mem he),
    RelationGraph.mem_nodes_ofEntities.2 (target_mem_names he hr)⟩

/-- Of two fields of one name that point to one entity the first has no edge of its own. -/
theorem keeps_relationGraph_repeated :
    let m := parse "model A \x7b\n  b B\n  b B?\n\x7d\nmodel B \x7b\n\x7d\n"
    m.summary.relations = 2 ∧ relationEdges m.entities =
        [(⟨"A", "B", "b"⟩, "B"), (⟨"A", "B", "b"⟩, "B?")] ∧
      m.relationGraph.edges.entries = [(⟨"A", "B", "b"⟩, "B?")] := by
  decide +kernel

end Schema
end SchemaDiagram
