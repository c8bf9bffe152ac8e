/-
# Routing relations

Every relation of a shown entity that has a box is drawn: as a stub if its
target is not shown, and otherwise as part of the edge that joins the two
entities. There is one edge for a pair of entities, whichever of them declares
relations to the other and however many; an end that declares several is
described by the last.

Key definitions: `Link`, `Links.add`, `stubsFrom`, `Route`, `route`.
Key theorems: `orderedPair_comm`.
-/
import SchemaDiagram.Diagram.Edge

namespace SchemaDiagram

/-- Two names in alphabetical order. -/
def orderedPair (a b : String) : String × String :=
  if b < a then (b, a) else (a, b)

/-- A pair of joined entities and what each declares about the other. -/
structure Link where
  first : String
  second : String
  sides : Keyed String Side

/-- The joined pairs under their keys, in the order in which they were found. -/
abbrev Links := Keyed String Link

/-- The pairs with a relation of an entity taken in. -/
def Links.add (links : Links) (source : String) (r : Relation) : Links :=
  let pair := orderedPair source r.target
  let key := pairKey pair.1 pair.2
  let link := (links.find? key).getD ⟨pair.1, pair.2, .empty⟩
  links.put key { link with sides := link.sides.put source (.ofRelation r) }

section

variable {α : Type} [Scalar α]

/-- The stubs of the relations of one entity, from a slot on. -/
def stubsFrom (shown : String → Bool) (source : String) (b : Box α) :
    Nat → List Relation → List (Stub α)
  | _, [] => []
  | slot, r :: rs =>
    if shown r.target then stubsFrom shown source b slot rs
    else Stub.onSlot source r b slot :: stubsFrom shown source b (slot + 1) rs

/-- The stubs of an entity, if it has a box. -/
def entityStubs (boxes : Keyed String (Box α)) (shown : String → Bool) (e : Entity) :
    List (Stub α) :=
  match boxes.find? e.name with
  | none => []
  | some b => stubsFrom shown e.name b 0 e.relations

/-- The pairs with the relations of an entity taken in, if it has a box. -/
def addLinks (boxes : Keyed String (Box α)) (shown : String → Bool) (links : Links) (e : Entity) :
    Links :=
  match boxes.find? e.name with
  | none => links
  | some _ => (e.relations.filter fun r => shown r.target).foldl (fun l r => l.add e.name r) links

/-- The edge of a pair, if both of its entities have boxes. -/
def Link.edge? (boxes : Keyed String (Box α)) (l : Link) : Option (Edge α) := do
  let a ← boxes.find? l.first
  let b ← boxes.find? l.second
  return ⟨l.first, l.second, l.sides.entries,
    cardinality (l.sides.find? l.first) (l.sides.find? l.second), a.right, a.midY, b.x, b.midY⟩

/-- The edges and stubs of a diagram. -/
structure Route (α : Type) where
  edges : List (Edge α)
  stubs : List (Stub α)
  deriving DecidableEq, Repr

/-- The edges and stubs of the selected entities. -/
def route (schema : Option Schema) (v : View α) : Route α :=
  let visible := shownEntities schema v
  let shown (n : String) : Bool := (visible.map (·.name)).contains n
  let links := visible.foldl (addLinks v.boxes shown) .empty
  ⟨links.values.filterMap (·.edge? v.boxes), visible.flatMap (entityStubs v.boxes shown)⟩

end

/-- A pair does not depend on the order in which its names are given. -/
theorem orderedPair_comm (a b : String) : orderedPair a b = orderedPair b a := by
  unfold orderedPair
  split
  · next h => rw [if_neg (String.lt_asymm h)]
  · next h =>
    split
    · rfl
    · next h2 => rw [String.le_antisymm h h2]

end SchemaDiagram
