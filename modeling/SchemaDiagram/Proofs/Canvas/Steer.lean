/-
# Steering

While a gesture is going on a move of the pointer sets the offset of the camera or the
corner of the dragged box from where the gesture began (`Gesture.steer`). Views that differ
in nothing else are therefore steered to the same view, and turns of the wheel keep views
in that relation (`Gesture.Strays`): a pan reads no more of the camera than its scale, and
a drag does not write the camera.

Key definitions: `View.moveBox`, `Gesture.steer`, `Gesture.Strays`.
Key theorems: `Canvas.move_of_gesture`, `Canvas.steer_start`, `Gesture.Strays.steer_eq`,
`Gesture.Strays.wheel`.
-/
import SchemaDiagram.Proofs.Canvas.Grip

namespace SchemaDiagram

namespace View

variable {α : Type} {v : View α} {n : String} {b : Box α}

/-- The view with the corner of a box at another place. -/
def moveBox (v : View α) (n : String) (p : Point α) : View α :=
  match v.boxes.find? n with
  | none => v
  | some b => v.place n (b.moveTo p)

theorem moveBox_of_find? (h : v.boxes.find? n = some b) (p : Point α) :
    v.moveBox n p = v.place n (b.moveTo p) := by
  rw [moveBox, h]

theorem moveBox_of_none (h : v.boxes.find? n = none) (p : Point α) : v.moveBox n p = v := by
  rw [moveBox, h]

theorem moveBox_moveBox (v : View α) (n : String) (p q : Point α) :
    (v.moveBox n p).moveBox n q = v.moveBox n q := by
  cases hb : v.boxes.find? n with
  | none => rw [moveBox_of_none hb]
  | some b =>
    rw [moveBox_of_find? hb, moveBox_of_find? hb, moveBox_of_find? (Keyed.find?_put_self _ _ _)]
    exact congrArg (fun boxes => ({ v with boxes := boxes } : View α)) (Keyed.put_put _ _ _ _)

theorem moveBox_corner (h : v.boxes.find? n = some b) : v.moveBox n ⟨b.x, b.y⟩ = v := by
  rw [moveBox_of_find? h]
  exact congrArg (fun boxes => ({ v with boxes := boxes } : View α)) (Keyed.put_of_find? h)

/-- The view with another camera. -/
def refocus (v : View α) (camera : Camera α) : View α :=
  { v with camera := camera }

theorem camera_moveBox (v : View α) (n : String) (p : Point α) :
    (v.moveBox n p).camera = v.camera := by
  unfold moveBox
  split <;> rfl

theorem refocus_moveBox (v : View α) (n : String) (p : Point α) (camera : Camera α) :
    (v.moveBox n p).refocus camera = (v.refocus camera).moveBox n p := by
  cases hb : (v.refocus camera).boxes.find? n with
  | none =>
    have hv : v.boxes.find? n = none := hb
    rw [moveBox_of_none hb, moveBox_of_none hv]
  | some b =>
    have hv : v.boxes.find? n = some b := hb
    rw [moveBox_of_find? hb, moveBox_of_find? hv]
    rfl

end View

namespace Gesture

/-- The view after the pointer has moved. -/
def steer (g : Gesture ℚ) (q : Point ℚ) (v : View ℚ) : View ℚ :=
  match g with
  | .pan start origin =>
    v.refocus ⟨origin.x + (q.x - start.x), origin.y + (q.y - start.y), v.camera.scale⟩
  | .drag n start origin =>
    v.moveBox n ⟨origin.x + (q.x - start.x) / v.camera.scale,
      origin.y + (q.y - start.y) / v.camera.scale⟩

/-- The second view is the first one but for what moves write: the offset of the camera in a
pan, and the corner of the dragged box in a drag. -/
def Strays (g : Gesture ℚ) (v w : View ℚ) : Prop :=
  match g with
  | .pan _ _ => ∃ x y, w = v.refocus ⟨x, y, v.camera.scale⟩
  | .drag n _ _ => ∃ p, w = v.moveBox n p

namespace Strays

variable {g : Gesture ℚ} {v w : View ℚ}

theorem refl (g : Gesture ℚ) (v : View ℚ) : g.Strays v v := by
  cases g with
  | pan start origin => exact ⟨v.camera.x, v.camera.y, rfl⟩
  | drag n start origin =>
    cases hb : v.boxes.find? n with
    | none => exact ⟨start, (View.moveBox_of_none hb start).symm⟩
    | some b => exact ⟨⟨b.x, b.y⟩, (View.moveBox_corner hb).symm⟩

theorem steer (h : g.Strays v w) (q : Point ℚ) : g.Strays v (g.steer q w) := by
  cases g with
  | pan start origin =>
    obtain ⟨x, y, rfl⟩ := h
    exact ⟨_, _, rfl⟩
  | drag n start origin =>
    obtain ⟨p, rfl⟩ := h
    exact ⟨_, View.moveBox_moveBox _ _ _ _⟩

theorem scale (h : g.Strays v w) : w.camera.scale = v.camera.scale := by
  cases g with
  | pan start origin =>
    obtain ⟨x, y, rfl⟩ := h
    rfl
  | drag n start origin =>
    obtain ⟨p, rfl⟩ := h
    rw [View.camera_moveBox]

/-- What moves have written makes no difference to the next one. -/
theorem steer_eq (h : g.Strays v w) (q : Point ℚ) : g.steer q w = g.steer q v := by
  cases g with
  | pan start origin =>
    obtain ⟨x, y, rfl⟩ := h
    rfl
  | drag n start origin =>
    obtain ⟨p, rfl⟩ := h
    rw [Gesture.steer, Gesture.steer, View.camera_moveBox, View.moveBox_moveBox]

/-- A turn of the wheel comes to the same scale and, in a drag, to the same camera. -/
theorem wheel (h : g.Strays v w) {rule : CameraRule ℚ} {p : Point ℚ} {turn : ℚ} {c d : Camera ℚ}
    (hc : v.camera.wheel rule p turn = .ok c) (hd : w.camera.wheel rule p turn = .ok d) :
    g.Strays (v.refocus c) (w.refocus d) := by
  have hscale : d.scale = c.scale := by
    rw [Camera.scale_wheel hc, Camera.scale_wheel hd, h.scale]
  cases g with
  | pan start origin =>
    obtain ⟨x, y, rfl⟩ := h
    exact ⟨d.x, d.y, congrArg (fun s => v.refocus ⟨d.x, d.y, s⟩) hscale⟩
  | drag n start origin =>
    obtain ⟨q, rfl⟩ := h
    rw [View.camera_moveBox, hc] at hd
    obtain rfl := Except.ok.inj hd
    exact ⟨q, View.refocus_moveBox _ _ _ _⟩

end Strays
end Gesture

namespace Canvas

variable {g : Gesture ℚ} {c : Canvas ℚ}

theorem move_of_gesture (h : c.gesture = some g) (hs : c.view.camera.scale ≠ 0) (q : Point ℚ) :
    ∃ moved, c.move q = .ok (moved, ⟨g.steer q c.view, c.gesture⟩) := by
  cases g with
  | pan start origin => exact ⟨none, move_of_pan h q⟩
  | drag n start origin =>
    cases hb : c.view.boxes.find? n with
    | none =>
      refine ⟨none, ?_⟩
      rw [move, h, Gesture.steer, View.moveBox_of_none hb]
      simp only [hb]
      rw [← h]
    | some b =>
      refine ⟨some n, ?_⟩
      rw [move_of_drag h hb hs, Gesture.steer, View.moveBox_of_find? hb]

/-- At the place where the pointer was pressed a gesture leaves the view as it was. -/
theorem steer_start {p : Point ℚ} {entity : Option String} {button : Int}
    (h : c.gestureAt? p entity button = some g) : g.steer p c.view = c.view := by
  obtain rfl | ⟨n, b, hb, rfl⟩ := gestureAt?_cases h
  · simp only [Gesture.steer, sub_self, add_zero]
    rfl
  · simp only [Gesture.steer, sub_self, zero_div, add_zero]
    exact View.moveBox_corner hb

end Canvas
end SchemaDiagram
