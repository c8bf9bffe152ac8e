/-
# The sunflower spiral

Boxes are first placed on a spiral around a centre, in declaration order: the
box of number `i` is centred at the angle of `i` golden sections of the circle
and at a distance that grows with the square root of `i`. Of several entities
with one name the last determines the place.

Key definitions: `Sunflower`, `Spiral`, `Spiral.box`, `Spiral.place`,
`Spiral.checked`.
Key theorems: `Spiral.mem_keys_place`.
-/
import SchemaDiagram.Geometry.Box
import SchemaDiagram.Keyed

namespace SchemaDiagram

/-- The direction and the distance of each place on the spiral. -/
class Sunflower (α : Type) where
  cosine : Nat → α
  sine : Nat → α
  root : Nat → α

/-- The angle between neighbouring places, in radians. -/
def goldenAngle : Float := 3.141592653589793 * (3.0 - Float.sqrt 5.0)

instance : Sunflower Float where
  cosine i := Float.cos (Float.ofNat i * goldenAngle)
  sine i := Float.sin (Float.ofNat i * goldenAngle)
  root i := Float.sqrt (Float.ofNat i)

/-- Where the spiral grows from, how fast it grows, and the sizes of the boxes. -/
structure Spiral (α : Type) where
  center : Point α
  spacing : α
  width : α
  heights : HeightRule α
  deriving DecidableEq, Repr

namespace Spiral

variable {α : Type} [Scalar α] [Sunflower α]

/-- The stock spiral. -/
def stock : Spiral α := ⟨⟨2600.0, 2600.0⟩, 240.0, 300.0, .stock⟩

/-- The box of an entity at a place of the spiral. -/
def box (s : Spiral α) (i : Nat) (e : Entity) : Box α :=
  let height := s.heights.ofEntity e
  let radius := s.spacing * Sunflower.root i
  ⟨s.center.x + Sunflower.cosine i * radius - s.width / 2.0,
    s.center.y + Sunflower.sine i * radius - height / 2.0, s.width, height⟩

/-- The boxes of entities from a place of the spiral on. -/
def placeFrom (s : Spiral α) (boxes : Keyed String (Box α)) : Nat → List Entity → Keyed String (Box α)
  | _, [] => boxes
  | i, e :: es => placeFrom s (boxes.put e.name (s.box i e)) (i + 1) es

/-- The boxes of all entities. -/
def place (s : Spiral α) (es : List Entity) : Keyed String (Box α) :=
  s.placeFrom .empty 0 es

/-- The boxes of all entities, unless the rows of one are beyond counting. -/
def checked (s : Spiral α) (es : List Entity) : Except Fault (Keyed String (Box α)) :=
  if es.all s.heights.counts then .ok (s.place es) else .error .numberTooLarge

theorem mem_keys_placeFrom {s : Spiral α} {n : String} {es : List Entity} :
    ∀ {boxes : Keyed String (Box α)} {i : Nat},
      n ∈ (s.placeFrom boxes i es).keys ↔ n ∈ boxes.keys ∨ n ∈ es.map (·.name) := by
  induction es with
  | nil => simp [placeFrom]
  | cons e es ih =>
    intro boxes i
    rw [placeFrom, ih, Keyed.mem_keys_put, List.map_cons, List.mem_cons]
    constructor
    · rintro ((h | h) | h)
      · exact .inr (.inl h)
      · exact .inl h
      · exact .inr (.inr h)
    · rintro (h | h | h)
      · exact .inl (.inr h)
      · exact .inl (.inl h)
      · exact .inr h

/-- Exactly the declared names have a box. -/
theorem mem_keys_place {s : Spiral α} {n : String} {es : List Entity} :
    n ∈ (s.place es).keys ↔ n ∈ es.map (·.name) := by
  rw [place, mem_keys_placeFrom]
  simp [Keyed.keys, Keyed.empty]

end Spiral
end SchemaDiagram
