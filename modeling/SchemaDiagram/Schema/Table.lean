/-
# Tables of a schema

One table lists the entities with the sizes of their parts, another the fields
of one entity. A table is a list of titled columns of equal length.

Key definitions: `Table`, `Table.rows`, `Schema.entitiesTable`,
`Schema.fieldsTable`.
-/
import SchemaDiagram.Schema.Lookup

namespace SchemaDiagram

/-- Titled columns. -/
structure Table where
  columns : List (String × List Cell)
  deriving DecidableEq, Repr

namespace Table

/-- The titles of the columns. -/
def titles (t : Table) : List String :=
  t.columns.map (·.1)

/-- The number of rows. -/
def height (t : Table) : Nat :=
  match t.columns with
  | [] => 0
  | c :: _ => c.2.length

/-- The cells row by row. -/
def rows (t : Table) : List (List Cell) :=
  (List.range t.height).map fun i => t.columns.filterMap fun c => c.2[i]?

end Table

/-- The mark of a property that holds. -/
def tick (b : Bool) : String :=
  if b then "✓" else ""

/-- The names of the entities that relations point to, each once. -/
def Entity.targets (e : Entity) : List String :=
  (e.relations.map (·.target)).eraseDups

namespace Schema

/-- One row for each entity: how many fields, options and relations it has and
where its relations point. -/
def entitiesTable (s : Schema) : Table :=
  ⟨[("Model", s.entities.map fun e => .text e.name),
    ("Fields", s.entities.map fun e => .number e.fields.length),
    ("Options", s.entities.map fun e => .number e.options.length),
    ("Relations", s.entities.map fun e => .number e.relations.length),
    ("Targets", s.entities.map fun e => .text (", ".intercalate e.targets))]⟩

/-- One row for each field of an entity, in declaration order. -/
def fieldsTable (s : Schema) (name : String) : Except Fault Table := do
  let e ← s.entity name
  return ⟨[("Field", e.fields.map fun f => .text f.name),
    ("Type", e.fields.map fun f => .text f.type),
    ("Attributes", e.fields.map fun f => .text (" ".intercalate f.attributes)),
    ("Nullable", e.fields.map fun f => .text (tick f.isNullable)),
    ("Relation", e.fields.map fun f => .text (tick f.isRelation))]⟩

end Schema
end SchemaDiagram
