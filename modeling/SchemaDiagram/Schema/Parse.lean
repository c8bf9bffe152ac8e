/-
# Reading a schema

A schema is its source text, the blocks found in it, one resolved entity for
each model block and the summary. Reading never fails.

Key definitions: `Schema`, `Schema.ofEntities`, `Schema.parse`.
Key theorems: `Schema.target_mem_names`.
-/
import SchemaDiagram.Schema.Resolve
import SchemaDiagram.Schema.Scan
import SchemaDiagram.Schema.Summary

namespace SchemaDiagram

/-- What is known of a schema text once it is read. -/
structure Schema where
  source : String
  blocks : List Block
  entities : List Entity
  summary : Summary
  deriving DecidableEq, Repr

namespace Schema

/-- The entity that a model block declares, before its relations are known. -/
def draft? (b : Block) : Option Entity :=
  if b.kind = .model then some (.draft ⟨b.name, b.kind⟩ (.ofLines b.body)) else none

/-- A schema put together from drafts, without a text. -/
def ofEntities (drafts : List Entity) : Schema :=
  let entities := resolveAll drafts
  ⟨"", [], entities, .of [] entities 0⟩

/-- The schema with the given blocks. -/
def ofBlocks (source : String) (blocks : List Block) (lines : Nat) : Schema :=
  let entities := resolveAll (blocks.filterMap draft?)
  ⟨source, blocks, entities, .of (blocks.map (·.kind)) entities lines⟩

/-- Reads a schema text. -/
def parse (source : String) : Schema :=
  let text := Text.joinLineEnds source.toList
  ofBlocks source (Scan.ofText text).blocks (Text.lines text).length

/-- The names of the entities in declaration order. -/
def names (s : Schema) : List String :=
  s.entities.map (·.name)

/-- Relations of a schema that was read point to entities of the schema. -/
theorem target_mem_names {source : String} {e : Entity} {r : Relation}
    (he : e ∈ (parse source).entities) (hr : r ∈ e.relations) :
    r.target ∈ (parse source).names := by
  have hn : (parse source).names =
      ((Scan.ofText (Text.joinLineEnds source.toList)).blocks.filterMap draft?).map (·.name) :=
    resolveAll_names _
  rw [hn]
  obtain ⟨d, _, rfl⟩ := List.mem_map.1 (show e ∈ resolveAll _ from he)
  exact Entity.target_mem_of_mem_resolve hr

end Schema
end SchemaDiagram
