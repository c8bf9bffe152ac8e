/-
# Finding entities of a schema

Entities are looked up by name, where of several declarations of a name the
last one counts, or searched for by a part of their name in either case.

Key definitions: `Schema.index`, `Schema.entity`, `Schema.hasEntity`,
`Schema.blocksOf`, `Schema.search`.
-/
import SchemaDiagram.Fault
import SchemaDiagram.Keyed
import SchemaDiagram.Schema.Parse
import SchemaDiagram.Text.Lowercase

namespace SchemaDiagram
namespace Schema

/-- The entities under their names; of several declarations of a name the last one stays. -/
def index (s : Schema) : Keyed String Entity :=
  .ofList (s.entities.map fun e => (e.name, e))

/-- The last declared entity of the name; an unknown name is a fault. -/
def entity (s : Schema) (name : String) : Except Fault Entity :=
  match s.index.find? name with
  | some e => .ok e
  | none => .error (.unknownEntity name)

/-- Some entity has the name. -/
def hasEntity (s : Schema) (name : String) : Bool :=
  s.index.has name

/-- The blocks of a kind in file order. -/
def blocksOf (s : Schema) (kind : BlockKind) : List Block :=
  s.blocks.filter fun b => b.kind = kind

/-- Names are ordered by their lower-case form, and names with the same form by
themselves. -/
def precedes (a b : Entity) : Bool :=
  let x := Text.lowerString a.name
  let y := Text.lowerString b.name
  decide (x < y) || (x == y && !decide (b.name < a.name))

/-- The name contains the pattern, whatever the case of either. -/
def nameHas (needle : List Char) (e : Entity) : Bool :=
  Text.contains needle (Text.lowerString e.name).toList

/-- The pattern that a query stands for. -/
def needle (query : String) : List Char :=
  Text.lower (Text.trim query.toList)

/-- The entities whose name contains the query, in the order of their names. -/
def search (s : Schema) (query : String) : List Entity :=
  (s.entities.mergeSort precedes).filter (nameHas (needle query))

end Schema
end SchemaDiagram
