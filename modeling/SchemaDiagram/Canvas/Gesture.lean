/-
# Pointer gestures

A pointer pressed on the empty canvas pans the camera; pressed on an entity it
drags the entity's box. A gesture remembers where it began, and every move sets
the camera or the box anew from there, so that moves do not add up. One gesture
is active at a time, and releasing the pointer ends it.

Key definitions: `Gesture`, `Canvas`, `Canvas.press`, `Canvas.move`,
`Canvas.release`.
Key theorems: `Canvas.press_of_gesture`.
-/
import SchemaDiagram.Canvas.Camera

namespace SchemaDiagram

/-- A gesture: where the pointer was pressed, in screen coordinates, and the
camera offset or box corner at that time. -/
inductive Gesture (α : Type) where
  | pan (start origin : Point α)
  | drag (entity : String) (start origin : Point α)
  deriving DecidableEq, Repr

/-- A view and the gesture that is going on. -/
structure Canvas (α : Type) where
  view : View α
  gesture : Option (Gesture α)

namespace Canvas

variable {α : Type}

/-- The canvas with another camera. -/
def setCamera (c : Canvas α) (camera : Camera α) : Canvas α :=
  { c with view := { c.view with camera := camera } }

/-- The gesture that pressing the pointer starts, if any: other buttons than
the first, a gesture in progress and an entity without a box start none. -/
def gestureAt? (c : Canvas α) (p : Point α) (entity : Option String) (button : Int) :
    Option (Gesture α) :=
  if button ≠ 0 || c.gesture.isSome then none
  else match entity with
    | none => some (.pan p ⟨c.view.camera.x, c.view.camera.y⟩)
    | some name => (c.view.boxes.find? name).map fun b => .drag name p ⟨b.x, b.y⟩

/-- The pointer pressed. -/
def press (c : Canvas α) (p : Point α) (entity : Option String) (button : Int) : Canvas α :=
  { c with gesture := (c.gestureAt? p entity button).or c.gesture }

/-- The pointer moved. The answer names the entity whose box was moved. -/
def move [Scalar α] (c : Canvas α) (p : Point α) : Except Fault (Option String × Canvas α) :=
  match c.gesture with
  | none => .ok (none, c)
  | some (.pan start origin) =>
    .ok (none, c.setCamera ⟨origin.x + (p.x - start.x), origin.y + (p.y - start.y),
      c.view.camera.scale⟩)
  | some (.drag name start origin) =>
    match c.view.boxes.find? name with
    | none => .ok (none, c)
    | some b => do
      let dx ← Scalar.quotient (p.x - start.x) c.view.camera.scale
      let dy ← Scalar.quotient (p.y - start.y) c.view.camera.scale
      return (some name,
        { c with view := c.view.place name (b.moveTo ⟨origin.x + dx, origin.y + dy⟩) })

/-- The pointer released. -/
def release (c : Canvas α) : Canvas α :=
  { c with gesture := none }

/-- While a gesture is going on, pressing changes nothing. -/
theorem press_of_gesture {c : Canvas α} (h : c.gesture.isSome = true) (p : Point α)
    (entity : Option String) (button : Int) : c.press p entity button = c := by
  simp [press, gestureAt?, h]

end Canvas
end SchemaDiagram
