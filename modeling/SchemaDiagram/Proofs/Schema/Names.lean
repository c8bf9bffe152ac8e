/-
# Names of entities

A name is known if an entity has it. A declared name is what an opener line reads as a
word, so it has no character that texts put between names.

Key theorems: `Schema.hasEntity_iff`, `Schema.isWord_of_mem_names`,
`Schema.colon_not_mem_of_mem_names`.
-/
import SchemaDiagram.Proofs.Keyed
import SchemaDiagram.Proofs.Schema.Codes
import SchemaDiagram.Schema.Lookup

namespace SchemaDiagram
namespace Schema

theorem hasEntity_iff {m : Schema} {n : String} : m.hasEntity n = true ↔ n ∈ m.names := by
  have hkeys : (m.entities.map fun e => (e.name, e)).map (·.1) = m.names := List.map_map
  rw [hasEntity, Keyed.has, Keyed.isSome_find?_iff, index, Keyed.mem_keys_ofList, hkeys]

theorem names_parse (source : String) :
    (parse source).names =
      ((Span.ofLines (codes source.toList)).filterMap fun p => draft? p.block).map (·.name) := by
  rw [names, entities_parse, resolveAll_names]

/-- A name is the one that an opener line gives. -/
theorem exists_opener_of_mem_names {source n : String} (h : n ∈ (parse source).names) :
    ∃ l o, Opener.match? l = some o ∧ o.name = n := by
  rw [names_parse] at h
  obtain ⟨d, hd, rfl⟩ := List.mem_map.1 h
  obtain ⟨p, hp, hpd⟩ := List.mem_filterMap.1 hd
  obtain ⟨l, hl⟩ := Span.exists_match?_opener p hp
  refine ⟨_, _, hl, ?_⟩
  unfold draft? at hpd
  split at hpd
  · obtain rfl := Option.some.inj hpd
    cases p <;> rfl
  · cases hpd

theorem isWord_of_mem_names {source n : String} (h : n ∈ (parse source).names) :
    ∀ c ∈ n.toList, Text.isWord c = true := by
  obtain ⟨l, o, hl, rfl⟩ := exists_opener_of_mem_names h
  exact Opener.isWord_of_mem_name hl

theorem colon_not_mem_of_mem_names {source n : String} (h : n ∈ (parse source).names) :
    ':' ∉ n.toList :=
  fun hc => absurd (isWord_of_mem_names h ':' hc) (by decide)

end Schema
end SchemaDiagram
