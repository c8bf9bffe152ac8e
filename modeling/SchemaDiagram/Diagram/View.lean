/-
# The view of a schema

What the user can change about a diagram: the boxes, the selected entities,
which fields of an entity show, the search text and the camera. Selecting never
adds or removes boxes. An entity shows its other fields and hides its relation
fields until a filter says otherwise.

Key definitions: `Camera`, `FieldFilter`, `View`, `View.filterOf`,
`View.setFilter`, `View.reportHeight`, `shownFields`, `shownEntities`.
-/
import SchemaDiagram.Diagram.Selection
import SchemaDiagram.Geometry.Spiral
import SchemaDiagram.Schema.Parse

namespace SchemaDiagram

/-- A point of the world is drawn at its coordinates times the scale, moved by
the offset. -/
structure Camera (α : Type) where
  x : α
  y : α
  scale : α
  deriving DecidableEq, Repr

/-- The camera before anything is loaded. -/
def Camera.initial {α : Type} [Scalar α] : Camera α := ⟨100.0, 60.0, 0.85⟩

/-- Which fields of an entity show. -/
structure FieldFilter where
  relations : Bool
  others : Bool
  deriving DecidableEq, Repr

/-- Relation fields hide, other fields show. -/
def FieldFilter.initial : FieldFilter := ⟨false, true⟩

/-- The filter lets the field show. -/
def FieldFilter.admits (f : FieldFilter) (field : Field) : Bool :=
  if field.isRelation then f.relations else f.others

/-- Everything the user can change about the current diagram. -/
structure View (α : Type) where
  boxes : Keyed String (Box α)
  selected : Selection
  filters : Keyed String FieldFilter
  query : String
  camera : Camera α

namespace View

variable {α : Type}

/-- The view of boxes with nothing selected. -/
def ofBoxes [Scalar α] (boxes : Keyed String (Box α)) : View α :=
  ⟨boxes, .empty, .empty, "", .initial⟩

def select (v : View α) (name : String) : View α :=
  { v with selected := v.selected.insert name }

def deselect (v : View α) (name : String) : View α :=
  { v with selected := v.selected.erase name }

/-- The view with a name selected if it was not, and the other way round. -/
def toggle (v : View α) (name : String) : View α :=
  if v.selected.has name then v.deselect name else v.select name

def selectAll (v : View α) (names : List String) : View α :=
  { v with selected := .ofList names }

def clearSelection (v : View α) : View α :=
  { v with selected := .empty }

/-- The filter of an entity. -/
def filterOf (v : View α) (name : String) : FieldFilter :=
  (v.filters.find? name).getD .initial

/-- The view with the filter of an entity on record. -/
def keepFilter (v : View α) (name : String) : View α :=
  { v with filters := v.filters.put name (v.filterOf name) }

/-- The view with parts of the filter of an entity changed. -/
def setFilter (v : View α) (name : String) (relations others : Option Bool) : View α :=
  let f := v.filterOf name
  { v with filters := v.filters.put name ⟨relations.getD f.relations, others.getD f.others⟩ }

/-- The view with a box put in place of the one of an entity. -/
def place (v : View α) (name : String) (b : Box α) : View α :=
  { v with boxes := v.boxes.put name b }

/-- The view without the box of an entity. -/
def drop (v : View α) (name : String) : View α :=
  { v with boxes := v.boxes.erase name }

/-- The height at which a box was drawn is kept when it differs from the one on
record by more than one unit; the answer says whether it did. -/
def reportHeight [Scalar α] (v : View α) (name : String) (height : α) : Bool × View α :=
  match v.boxes.find? name with
  | none => (false, v)
  | some b =>
    if Scalar.magnitude (b.height - height) ≤ 1.0 then (false, v)
    else (true, v.place name { b with height := height })

end View

/-- The fields of an entity that a filter lets show. -/
def shownFields (e : Entity) (f : FieldFilter) : List Field :=
  e.fields.filter f.admits

/-- The selected entities in declaration order. -/
def shownEntities {α : Type} (schema : Option Schema) (v : View α) : List Entity :=
  match schema with
  | none => []
  | some s => s.entities.filter fun e => v.selected.has e.name

end SchemaDiagram
