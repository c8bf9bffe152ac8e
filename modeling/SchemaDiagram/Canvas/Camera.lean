/-
# Moving the camera

A camera draws the world point `p` at `p * scale + offset`. Zooming multiplies
the scale within limits and keeps the world point under the cursor where it is
drawn. Fitting frames boxes with a margin, at a scale within limits of its own.

Key definitions: `CameraRule`, `Camera.toWorld`, `Camera.toScreen`,
`Camera.centerOn`, `Camera.zoomAt`, `Camera.wheel`, `Bounds.ofBoxes?`,
`Camera.fit`.
-/
import SchemaDiagram.Diagram.View

namespace SchemaDiagram

/-- The factors of one zoom step, the limits of zooming, and the margin and
limits of fitting. -/
structure CameraRule (α : Type) where
  zoomIn : α
  zoomOut : α
  zoomMin : α
  zoomMax : α
  fitMargin : α
  fitMin : α
  fitMax : α
  deriving DecidableEq, Repr

/-- The smallest upright rectangle around some boxes. -/
structure Bounds (α : Type) where
  left : α
  top : α
  right : α
  bottom : α
  deriving DecidableEq, Repr

variable {α : Type} [Scalar α]

/-- The stock limits. -/
def CameraRule.stock : CameraRule α := ⟨1.08, 0.92, 0.18, 2.8, 140.0, 0.2, 1.2⟩

namespace Bounds

def ofBox (b : Box α) : Bounds α := ⟨b.x, b.y, b.right, b.bottom⟩

/-- The bounds with a box taken in. -/
def add (r : Bounds α) (b : Box α) : Bounds α :=
  ⟨Scalar.smaller r.left b.x, Scalar.smaller r.top b.y, Scalar.larger r.right b.right,
    Scalar.larger r.bottom b.bottom⟩

/-- The bounds of some boxes, if there are any. -/
def ofBoxes? : List (Box α) → Option (Bounds α)
  | [] => none
  | b :: bs => some (bs.foldl add (ofBox b))

end Bounds

namespace Camera

/-- The world point drawn at a screen point. -/
def toWorld (c : Camera α) (p : Point α) : Except Fault (Point α) := do
  let x ← Scalar.quotient (p.x - c.x) c.scale
  let y ← Scalar.quotient (p.y - c.y) c.scale
  return ⟨x, y⟩

/-- Where a world point is drawn. -/
def toScreen (c : Camera α) (p : Point α) : Point α :=
  ⟨p.x * c.scale + c.x, p.y * c.scale + c.y⟩

/-- The camera that draws a world point in the middle of a window. -/
def centerOn (rule : CameraRule α) (p : Point α) (scale : α) (size : Extent α) : Camera α :=
  let s := Scalar.clamp scale rule.zoomMin rule.zoomMax
  ⟨size.width / 2.0 - p.x * s, size.height / 2.0 - p.y * s, s⟩

/-- The world point drawn in the middle of a window. -/
def visibleCenter (c : Camera α) (size : Extent α) : Except Fault (Point α) :=
  c.toWorld ⟨size.width / 2.0, size.height / 2.0⟩

/-- The camera with its scale multiplied, the world point under the cursor
staying where it is drawn. -/
def zoomAt (rule : CameraRule α) (c : Camera α) (p : Point α) (factor : α) :
    Except Fault (Camera α) := do
  let w ← c.toWorld p
  let s := Scalar.clamp (c.scale * factor) rule.zoomMin rule.zoomMax
  return ⟨p.x - w.x * s, p.y - w.y * s, s⟩

/-- One zoom step: in when the wheel turns up, else out. -/
def wheel (rule : CameraRule α) (c : Camera α) (p : Point α) (turn : α) : Except Fault (Camera α) :=
  zoomAt rule c p (if turn < 0.0 then rule.zoomIn else rule.zoomOut)

/-- The camera that frames the bounds in a window. -/
def frame (rule : CameraRule α) (r : Bounds α) (size : Extent α) : Except Fault (Camera α) := do
  let width := r.right - r.left + rule.fitMargin
  let height := r.bottom - r.top + rule.fitMargin
  let half := rule.fitMargin / 2.0
  let across ← Scalar.quotient size.width width
  let down ← Scalar.quotient size.height height
  let s := Scalar.clamp (Scalar.smaller across down) rule.fitMin rule.fitMax
  return ⟨(size.width - width * s) / 2.0 - (r.left - half) * s,
    (size.height - height * s) / 2.0 - (r.top - half) * s, s⟩

/-- The camera that frames the boxes; none if there is nothing to frame. -/
def fit (rule : CameraRule α) (boxes : List (Box α)) (size : Extent α) :
    Except Fault (Option (Camera α)) :=
  match Bounds.ofBoxes? boxes with
  | none => .ok none
  | some r => (frame rule r size).map some

end Camera
end SchemaDiagram
