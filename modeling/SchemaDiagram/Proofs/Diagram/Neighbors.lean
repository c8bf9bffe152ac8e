/-
# Neighbours

The graph of a schema has an edge for each relation, so that two names are linked in it
exactly if a declaration of one of them has a relation to the other, whichever of several
declarations of a name that is. The neighbours of a name are the other names to which it is
linked, in the order of declaration. When they are selected with the name, none of its
relations leads to a hidden entity.

Key definitions: `Schema.Related`, `Schema.near`, `Route.Opens`.
Key theorems: `RelationGraph.linked_iff`, `Schema.neighbors_eq`, `Schema.mem_near_comm`,
`Schema.opens_route`.
-/
import SchemaDiagram.Proofs.Diagram.Disclosure
import SchemaDiagram.Proofs.Schema.Names
import SchemaDiagram.Proofs.Schema.RelationEdges

namespace SchemaDiagram

namespace Schema

instance (m : Schema) (a b : String) : Decidable (m.Relates a b) :=
  inferInstanceAs (Decidable (∃ e ∈ m.entities, e.name = a ∧ ∃ r ∈ e.relations, r.target = b))

/-- A declaration of one of the names has a relation to the other. -/
def Related (m : Schema) (a b : String) : Prop := m.Relates a b ∨ m.Relates b a

instance (m : Schema) (a b : String) : Decidable (m.Related a b) :=
  inferInstanceAs (Decidable (m.Relates a b ∨ m.Relates b a))

theorem related_comm {m : Schema} {a b : String} : m.Related a b ↔ m.Related b a := or_comm

/-- The other names that are related to a name, in the order of declaration. -/
def near (m : Schema) (a : String) : List String :=
  m.names.filter fun n => decide (n ≠ a ∧ m.Related a n)

end Schema

/-! ### The graph -/

theorem RelationGraph.exists_edge_iff {m : Schema} {a b : String} :
    (∃ k ∈ m.relationGraph.edges.keys, k.source = a ∧ k.target = b) ↔ m.Relates a b := by
  constructor
  · rintro ⟨k, hk, rfl, rfl⟩
    obtain ⟨e, he, r, hr, rfl⟩ := mem_edges_ofEntities.1 hk
    exact ⟨e, he, rfl, r, hr, rfl⟩
  · rintro ⟨e, he, rfl, r, hr, rfl⟩
    exact ⟨_, mem_edges_ofEntities.2 ⟨e, he, r, hr, rfl⟩, rfl, rfl⟩

/-- The graph links related names. -/
theorem RelationGraph.linked_iff {m : Schema} {a b : String} :
    m.relationGraph.linked a b = true ↔ m.Related a b := by
  rw [linked, List.any_eq_true, Schema.Related, ← exists_edge_iff, ← exists_edge_iff]
  simp only [Bool.or_eq_true, Bool.and_eq_true, beq_iff_eq, and_or_left, exists_or]

namespace Schema

variable {m : Schema} {a b : String}

theorem neighbors_eq (ha : a ∈ m.names) : m.neighbors a = .ok (m.near a) := by
  have hknown : m.hasEntity a = true := hasEntity_iff.2 ha
  rw [neighbors, if_pos hknown, near]
  refine congrArg Except.ok (List.filter_congr fun n _ => ?_)
  rw [Bool.eq_iff_iff, Bool.and_eq_true, bne_iff_ne, RelationGraph.linked_iff, decide_eq_true_iff]

theorem mem_near : b ∈ m.near a ↔ b ∈ m.names ∧ b ≠ a ∧ m.Related a b := by
  rw [near, List.mem_filter, decide_eq_true_iff]

/-- Two names are neighbours of each other or not. -/
theorem mem_near_comm (ha : a ∈ m.names) (hb : b ∈ m.names) : b ∈ m.near a ↔ a ∈ m.near b := by
  rw [mem_near, mem_near, and_iff_right ha, and_iff_right hb, ne_comm, related_comm]

end Schema

/-! ### The route -/

variable {α : Type}

/-- Every relation of a name is drawn as an edge: the name has no stub, and it has a side in
an edge to each of its targets. -/
structure Route.Opens (ρ : Route α) (m : Schema) (a : String) : Prop where
  no_stub : ∀ t ∈ ρ.stubs, t.source ≠ a
  edge : ∀ e ∈ m.entities, e.name = a → ∀ r ∈ e.relations,
    ∃ d ∈ ρ.edges, d.ends = orderedPair a r.target ∧ a ∈ d.sides.map (·.1)

/-- A name that is selected with its neighbours has all its relations drawn as edges. -/
theorem Schema.opens_route [Scalar α] {source : String} {v : View α} {a : String}
    (h : v.Covers (parse source).names) (ha : a ∈ v.selected.names)
    (hnear : ∀ b ∈ (parse source).near a, b ∈ v.selected.names) :
    (route (some (parse source)) v).Opens (parse source) a := by
  have htargets : ∀ e ∈ (parse source).entities, e.name = a → ∀ r ∈ e.relations,
      r.target ∈ v.selected.names := by
    intro e he hname r hr
    by_cases hself : r.target = a
    · exact hself ▸ ha
    · have hrelated : (parse source).Related a r.target := .inl ⟨e, he, hname, r, hr, rfl⟩
      exact hnear _ (mem_near.2 ⟨target_mem_names he hr, hself, hrelated⟩)
  refine ⟨fun t ht hsource => ?_, fun e he hname r hr => ?_⟩
  · obtain ⟨e, he, hname, r, hr, -, htarget, -⟩ := exists_relation_of_mem_stubs h.boxes_shown ht
    have hselected := htargets e (mem_shown.1 he).1 (hname.trans hsource) r hr
    exact h.not_mem_of_stub ht (htarget ▸ hselected)
  · rw [← hname]
    exact h.exists_edge he (hname ▸ ha) hr (htargets e he hname r hr)

end SchemaDiagram
