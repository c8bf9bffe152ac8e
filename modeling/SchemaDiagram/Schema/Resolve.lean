/-
# Which fields are relations

A field is a relation when its base type is the name of a declared entity,
wherever that entity is declared. The set of names is collected first, so a
field may point forwards.

Key definitions: `Entity.draft`, `Entity.resolve`, `resolveAll`.
Key theorems: `resolveAll_names`, `Entity.target_mem_of_mem_resolve`.
-/
import SchemaDiagram.Schema.Body

namespace SchemaDiagram
namespace Entity

/-- An entity whose relations are not known yet. -/
def draft (heading : Heading) (body : Body) : Entity :=
  ⟨heading, body.fields, body.options, []⟩

/-- The field, marked as a relation if its base type is one of the names. -/
def classify (names : List String) (f : Field) : Field :=
  { f with isRelation := names.contains f.baseType }

/-- The relation that a classified field stands for. -/
def relation? (f : Field) : Option Relation :=
  if f.isRelation then some ⟨f.name, f.baseType, f.type⟩ else none

/-- The entity with its fields classified and its relations in field order. -/
def resolve (names : List String) (e : Entity) : Entity :=
  let fields := e.fields.map (classify names)
  { e with fields := fields, relations := fields.filterMap relation? }

/-- Every relation points to a known name. -/
theorem target_mem_of_mem_resolve {names : List String} {e : Entity} {r : Relation}
    (h : r ∈ (e.resolve names).relations) : r.target ∈ names := by
  simp only [resolve, List.mem_filterMap, List.mem_map] at h
  obtain ⟨_, ⟨f, _, rfl⟩, hr⟩ := h
  unfold relation? at hr
  split at hr
  · next hf =>
    obtain rfl := Option.some.inj hr
    exact List.contains_iff_mem.1 hf
  · cases hr

end Entity

/-- Every draft resolved against the names of all drafts. -/
def resolveAll (drafts : List Entity) : List Entity :=
  drafts.map (Entity.resolve (drafts.map (·.name)))

theorem resolveAll_names (drafts : List Entity) :
    (resolveAll drafts).map (·.name) = drafts.map (·.name) := by
  simp [resolveAll, Entity.resolve, Function.comp_def]

end SchemaDiagram
