/-
# Scenes

A scene describes what is drawn: a node for each selected entity that has a
box, with the fields that its filter lets show, and the route. Building a scene
puts the filters of its nodes on record.

Key definitions: `Node`, `Scene`, `scene`, `Node.label`.
-/
import SchemaDiagram.Diagram.Route

namespace SchemaDiagram

/-- A drawn entity. -/
structure Node (α : Type) where
  name : String
  box : Box α
  fields : List Field
  totalFields : Nat
  options : List String
  filter : FieldFilter
  deriving DecidableEq, Repr

namespace Node

variable {α : Type}

def fieldsTitle (n : Node α) : String :=
  "Fields (" ++ toString n.fields.length ++ "/" ++ toString n.totalFields ++ ")"

def optionsTitle (n : Node α) : String :=
  "Model Options (" ++ toString n.options.length ++ ")"

/-- A field on a label: its name, its type, whether it may be null, and its
attributes. -/
def fieldText (f : Field) : String :=
  f.name ++ ": " ++ f.type ++ (if f.isNullable then "  nullable" else "") ++
    (if f.attributes.isEmpty then "" else "  " ++ " ".intercalate f.attributes)

/-- The text inside a drawn entity. -/
def label (n : Node α) : String :=
  "\n".intercalate ([n.name, n.fieldsTitle] ++ n.fields.map fieldText ++ [n.optionsTitle] ++
    (if n.options.isEmpty then ["none"] else n.options))

end Node

/-- What is drawn. -/
structure Scene (α : Type) where
  nodes : List (Node α)
  edges : List (Edge α)
  stubs : List (Stub α)
  deriving DecidableEq, Repr

def Scene.isEmpty {α : Type} (s : Scene α) : Bool := s.nodes.isEmpty

section

variable {α : Type}

/-- The node of an entity, if it has a box. -/
def node? (v : View α) (e : Entity) : Option (Node α) :=
  (v.boxes.find? e.name).map fun b =>
    let f := v.filterOf e.name
    ⟨e.name, b, shownFields e f, e.fields.length, e.options, f⟩

/-- The view with the filters of the drawn entities on record. -/
def keepFilters (schema : Option Schema) (v : View α) : View α :=
  (shownEntities schema v).foldl
    (fun w e => if v.boxes.has e.name then w.keepFilter e.name else w) v

/-- The scene of the selected entities. -/
def scene [Scalar α] (schema : Option Schema) (v : View α) : Scene α :=
  let r := route schema v
  ⟨(shownEntities schema v).filterMap (node? v), r.edges, r.stubs⟩

end
end SchemaDiagram
