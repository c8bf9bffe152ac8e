/-
# Edges and stubs

An edge joins the boxes of two shown entities, the alphabetically first one
being its source, and remembers for each end the relation that the end
declares. A stub stands for a relation into an entity that is not shown; it
starts at the right side of its entity, one slot below the other.

Key definitions: `Side`, `cardinality`, `Edge`, `Edge.path`, `Stub`,
`Stub.onSlot`, `Stub.path`, `View.reveal`.
-/
import SchemaDiagram.Decimal.Format
import SchemaDiagram.Diagram.View

namespace SchemaDiagram

/-- What one end of an edge declares about the other end. -/
structure Side where
  isList : Bool
  isOptional : Bool
  deriving DecidableEq, Repr

def Side.ofRelation (r : Relation) : Side := ⟨r.isList, r.isOptional⟩

/-- Two list ends are many to many, one is one to many, none is one to one; an
optional end is mentioned. -/
def cardinality (a b : Option Side) : String :=
  let lists (s : Option Side) := s.any (·.isList)
  let optional (s : Option Side) := s.any (·.isOptional)
  let kind := if lists a && lists b then "N:M" else if lists a || lists b then "1:N" else "1:1"
  if optional a || optional b then kind ++ " (optional)" else kind

/-- A connection between the right side of one box and the left side of another. -/
structure Edge (α : Type) where
  source : String
  target : String
  sides : List (String × Side)
  label : String
  x1 : α
  y1 : α
  x2 : α
  y2 : α
  deriving DecidableEq, Repr

/-- The key of the pair of names that an edge joins. -/
def pairKey (a b : String) : String := a ++ "::" ++ b

namespace Edge

variable {α : Type} [Scalar α]

def key (e : Edge α) : String := pairKey e.source e.target

/-- Edges are drawn solid. -/
def dashed (_ : Edge α) : Bool := false

/-- How far the curve leaves its ends horizontally. -/
def bend (e : Edge α) : α :=
  Scalar.larger 40.0 (Scalar.magnitude (e.x2 - e.x1) * 0.45)

/-- A little above the middle. -/
def labelPosition (e : Edge α) : Point α :=
  ⟨(e.x1 + e.x2) / 2.0, (e.y1 + e.y2) / 2.0 - 6.0⟩

end Edge

/-- A coordinate as it stands in path data. -/
def coordinate (x : Float) : String := NumberFormat.plain.render x

/-- The path data of the curve: it leaves and enters horizontally. -/
def Edge.path (e : Edge Float) : String :=
  let b := e.bend
  "M " ++ coordinate e.x1 ++ " " ++ coordinate e.y1 ++
    " C " ++ coordinate (e.x1 + b) ++ " " ++ coordinate e.y1 ++
    ", " ++ coordinate (e.x2 - b) ++ " " ++ coordinate e.y2 ++
    ", " ++ coordinate e.x2 ++ " " ++ coordinate e.y2

/-- A dashed line for a relation into an entity that is not shown. -/
structure Stub (α : Type) where
  source : String
  field : String
  target : String
  slot : Int
  x1 : α
  y1 : α
  x2 : α
  y2 : α
  deriving DecidableEq, Repr

namespace Stub

variable {α : Type} [Scalar α]

/-- The slot tells apart stubs of fields with one name. -/
def key (s : Stub α) : String := s.source ++ "::" ++ s.field ++ "::" ++ toString s.slot

/-- Stubs are drawn dashed. -/
def dashed (_ : Stub α) : Bool := true

def label (s : Stub α) : String := "... " ++ s.target

/-- The top-left corner of the control that reveals the target. -/
def linkPosition (s : Stub α) : Point α := ⟨s.x2 + 8.0, s.y2 - 10.0⟩

/-- Where a revealed box is put: its left side and half its height. -/
def revealOrigin (s : Stub α) : Point α := ⟨s.x2 + 56.0, s.y2⟩

/-- The stub of a relation at a slot of a box. -/
def onSlot (source : String) (r : Relation) (b : Box α) (slot : Nat) : Stub α :=
  let x := b.right
  let y := b.y + 28.0 + Scalar.ofInt (slot : Int) * 18.0
  ⟨source, r.field, r.target, slot, x, y, x + 138.0, y⟩

end Stub

/-- The path data of the line. -/
def Stub.path (s : Stub Float) : String :=
  "M " ++ coordinate s.x1 ++ " " ++ coordinate s.y1 ++
    " L " ++ coordinate s.x2 ++ " " ++ coordinate s.y2

/-- The target of a stub selected, and its box put beside the stub. -/
def View.reveal {α : Type} [Scalar α] (v : View α) (s : Stub α) : View α :=
  let v := v.select s.target
  match v.boxes.find? s.target with
  | none => v
  | some b =>
    let p := s.revealOrigin
    v.place s.target (b.moveTo ⟨p.x, p.y - b.height / 2.0⟩)

end SchemaDiagram
