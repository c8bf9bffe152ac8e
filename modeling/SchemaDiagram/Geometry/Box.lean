/-
# Entity boxes

An entity is drawn as a box in world coordinates. Before anything is drawn its
height is estimated from a header, a row for each field up to a limit, and a
row for each option.

Key definitions: `Box`, `Box.moveTo`, `HeightRule`, `HeightRule.estimate`,
`HeightRule.checked`.
-/
import SchemaDiagram.Scalar
import SchemaDiagram.Schema.Basic

namespace SchemaDiagram

/-- The top-left corner and the size of a box. -/
structure Box (α : Type) where
  x : α
  y : α
  width : α
  height : α
  deriving DecidableEq, Repr

namespace Box

variable {α : Type}

/-- The box with its top-left corner at another place. -/
def moveTo (b : Box α) (p : Point α) : Box α :=
  { b with x := p.x, y := p.y }

variable [Scalar α]

def right (b : Box α) : α := b.x + b.width

def bottom (b : Box α) : α := b.y + b.height

/-- Half way down. -/
def midY (b : Box α) : α := b.y + b.height / 2.0

def center (b : Box α) : Point α := ⟨b.x + b.width / 2.0, b.midY⟩

end Box

/-- How high boxes are taken to be: a header, a row for each of at most
`fieldCap` fields, and a row for each option. -/
structure HeightRule (α : Type) where
  base : α
  perField : α
  fieldCap : Int
  perOption : α
  deriving DecidableEq, Repr

namespace HeightRule

variable {α : Type} [Scalar α]

/-- The stock proportions. -/
def stock : HeightRule α := ⟨92.0, 25.0, 18, 22.0⟩

/-- The height of a box for so many fields and options. -/
def estimate (r : HeightRule α) (fields options : Nat) : α :=
  r.base + Scalar.ofInt (min (fields : Int) r.fieldCap) * r.perField +
    Scalar.ofInt (options : Int) * r.perOption

/-- The number of rows for fields is near some scalar. -/
def counts (r : HeightRule α) (e : Entity) : Bool :=
  Scalar.reaches (α := α) (min (e.fields.length : Int) r.fieldCap)

/-- The height of the box of an entity. -/
def ofEntity (r : HeightRule α) (e : Entity) : α :=
  r.estimate e.fields.length e.options.length

/-- The height of the box of an entity, unless its rows are beyond counting. -/
def checked (r : HeightRule α) (e : Entity) : Except Fault α :=
  if r.counts e then .ok (r.ofEntity e) else .error .numberTooLarge

end HeightRule
end SchemaDiagram
