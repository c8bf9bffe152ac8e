/-
# What the pointer holds

A pan takes hold of the world point under the pointer, and a drag of a place beside
the corner of the dragged box. Each move is reckoned from where the gesture began, so
what is held after it depends on the camera alone and not on the moves before
(`Gesture.hold`): a pan holds on as long as the scale is the same, and a drag as long
as the camera draws the same world point where the pointer was pressed.

Key definitions: `Canvas.grip`, `Gesture.hold`, `Gesture.HeldBetween`, `Canvas.Holds`.
Key theorems: `Camera.exists_wheel_eq_ok`, `Gesture.hold_eq_hold_iff`,
`Canvas.Holds.press`, `Canvas.Holds.move`.
-/
import Mathlib.Tactic.Ring
import SchemaDiagram.Proofs.Canvas.Sound

namespace SchemaDiagram

/-- A wheel step keeps the world point under the cursor where it is drawn, at a scale
that is positive again. -/
theorem Camera.exists_wheel_eq_ok {rule : CameraRule ℚ} (hrule : 0 < rule.zoomMin)
    {c : Camera ℚ} (hc : 0 < c.scale) (p : Point ℚ) (turn : ℚ) :
    ∃ d, c.wheel rule p turn = .ok d ∧ 0 < d.scale ∧ d.toWorld p = c.toWorld p := by
  obtain ⟨d, hd, hscale, hanchor⟩ := exists_zoomAt_eq_ok hrule hc.ne' p
    (if turn < 0.0 then rule.zoomIn else rule.zoomOut)
  refine ⟨d, hd, ?_, hanchor⟩
  rw [hscale]
  exact lt_of_lt_of_le hrule (Scalar.le_clamp _ _ _)

namespace Gesture

/-- What a gesture holds under a camera after a move of the pointer. -/
def hold (g : Gesture ℚ) (c : Camera ℚ) : Point ℚ :=
  match g with
  | .pan start origin => ⟨(start.x - origin.x) / c.scale, (start.y - origin.y) / c.scale⟩
  | .drag _ start origin =>
    ⟨(start.x - c.x) / c.scale - origin.x, (start.y - c.y) / c.scale - origin.y⟩

/-- What is held under one camera is held under the other: for a pan, they have one
scale or the origin of the world is held; for a drag, they draw one world point where
the gesture began. -/
def HeldBetween (g : Gesture ℚ) (c d : Camera ℚ) : Prop :=
  match g with
  | .pan start origin => d.scale = c.scale ∨ start = origin
  | .drag _ start _ => d.toWorld start = c.toWorld start

theorem hold_eq_hold_iff (g : Gesture ℚ) {c d : Camera ℚ} (hc : c.scale ≠ 0) (hd : d.scale ≠ 0) :
    g.hold d = g.hold c ↔ g.HeldBetween c d := by
  cases g with
  | pan start origin =>
    have hquotient : ∀ a : ℚ, a / d.scale = a / c.scale ↔ d.scale = c.scale ∨ a = 0 := by
      intro a
      by_cases ha : a = 0
      · simp [ha]
      · rw [div_eq_div_iff hd hc, mul_right_inj' ha, or_iff_left ha, eq_comm]
    obtain ⟨x, y⟩ := start
    obtain ⟨u, v⟩ := origin
    simp only [hold, HeldBetween, Point.mk.injEq, hquotient, sub_eq_zero, ← or_and_left]
  | drag n start origin =>
    simp only [hold, HeldBetween, Point.mk.injEq, sub_left_inj, Camera.toWorld_eq hc,
      Camera.toWorld_eq hd, Except.ok.injEq]

end Gesture

namespace Canvas

/-- What the pointer holds at a screen point: the world point under it, or where this
point is beside the corner of the dragged box. -/
def grip {α : Type} [Scalar α] (c : Canvas α) (g : Gesture α) (p : Point α) :
    Except Fault (Option (Point α)) :=
  (c.view.camera.toWorld p).map fun w =>
    match g with
    | .pan _ _ => some w
    | .drag name _ _ => (c.view.boxes.find? name).map fun b => ⟨w.x - b.x, w.y - b.y⟩

/-- A pan begins with the camera as it is, and a drag with a box as it is. -/
theorem gestureAt?_cases {α : Type} {c : Canvas α} {p : Point α} {entity : Option String}
    {button : Int} {g : Gesture α} (h : c.gestureAt? p entity button = some g) :
    g = .pan p ⟨c.view.camera.x, c.view.camera.y⟩ ∨
      ∃ n b, c.view.boxes.find? n = some b ∧ g = .drag n p ⟨b.x, b.y⟩ := by
  unfold gestureAt? at h
  split at h
  · cases h
  · split at h
    · exact .inl (Option.some.inj h).symm
    · obtain ⟨b, hb, hbg⟩ := Option.map_eq_some_iff.1 h
      exact .inr ⟨_, b, hb, hbg.symm⟩

variable {g : Gesture ℚ} {c : Canvas ℚ} {p : Point ℚ} {entity : Option String} {button : Int}

theorem move_of_pan {start origin : Point ℚ} (h : c.gesture = some (.pan start origin))
    (q : Point ℚ) :
    c.move q = .ok (none, c.setCamera ⟨origin.x + (q.x - start.x), origin.y + (q.y - start.y),
      c.view.camera.scale⟩) := by
  rw [move, h]

theorem move_of_drag {n : String} {start origin : Point ℚ}
    (h : c.gesture = some (.drag n start origin)) {b : Box ℚ} (hb : c.view.boxes.find? n = some b)
    (hs : c.view.camera.scale ≠ 0) (q : Point ℚ) :
    c.move q = .ok (some n, ⟨c.view.place n (b.moveTo
      ⟨origin.x + (q.x - start.x) / c.view.camera.scale,
        origin.y + (q.y - start.y) / c.view.camera.scale⟩), c.gesture⟩) := by
  rw [move, h]
  simp only [hb, Scalar.quotient_of_ne_zero _ hs]
  rfl

/-- A gesture is going on that can be followed. -/
structure Holds (g : Gesture ℚ) (c : Canvas ℚ) : Prop where
  scale : 0 < c.view.camera.scale
  gesture : c.gesture = some g
  box : ∀ n start origin, g = .drag n start origin → ∃ b, c.view.boxes.find? n = some b

theorem grip_pan (hc : 0 < c.view.camera.scale) (start origin q : Point ℚ) :
    c.grip (.pan start origin) q = .ok (some ⟨(q.x - c.view.camera.x) / c.view.camera.scale,
      (q.y - c.view.camera.y) / c.view.camera.scale⟩) := by
  rw [grip, Camera.toWorld_eq hc.ne']
  rfl

theorem grip_drag (hc : 0 < c.view.camera.scale) {n : String} {b : Box ℚ}
    (hb : c.view.boxes.find? n = some b) (start origin q : Point ℚ) :
    c.grip (.drag n start origin) q = .ok (some
      ⟨(q.x - c.view.camera.x) / c.view.camera.scale - b.x,
        (q.y - c.view.camera.y) / c.view.camera.scale - b.y⟩) := by
  rw [grip, Camera.toWorld_eq hc.ne']
  simp only [Except.map, hb, Option.map_some]

/-- What a gesture takes hold of. -/
theorem grip_of_gestureAt? (hc : 0 < c.view.camera.scale)
    (h : c.gestureAt? p entity button = some g) :
    c.grip g p = .ok (some (g.hold c.view.camera)) := by
  obtain rfl | ⟨n, b, hb, rfl⟩ := gestureAt?_cases h
  · exact grip_pan hc _ _ _
  · exact grip_drag hc hb _ _ _

namespace Holds

theorem press (hc : 0 < c.view.camera.scale) (h : c.gestureAt? p entity button = some g) :
    Holds g (c.press p entity button) where
  scale := hc
  gesture := by rw [Canvas.press, h, Option.some_or]
  box n start origin hg := by
    obtain hp | ⟨m, b, hb, hd⟩ := gestureAt?_cases h
    · rw [hp] at hg
      cases hg
    · obtain ⟨rfl, -, -⟩ := Gesture.drag.inj (hg.symm.trans hd)
      exact ⟨b, hb⟩

theorem setCamera (h : Holds g c) {camera : Camera ℚ} (hs : 0 < camera.scale) :
    Holds g (c.setCamera camera) :=
  { h with scale := hs }

theorem place {n : String} {start origin : Point ℚ} (h : Holds (.drag n start origin) c)
    (b : Box ℚ) : Holds (.drag n start origin) ⟨c.view.place n b, c.gesture⟩ where
  scale := h.scale
  gesture := h.gesture
  box m s o hm := by
    obtain ⟨rfl, -, -⟩ := Gesture.drag.inj hm
    exact ⟨b, Keyed.find?_put_self _ _ _⟩

/-- The pointer can be followed: the gesture goes on, what it holds is determined by
the camera, and the camera keeps hold of it. -/
theorem move (h : Holds g c) (q : Point ℚ) :
    ∃ moved d, c.move q = .ok (moved, d) ∧ Holds g d ∧
      d.grip g q = .ok (some (g.hold c.view.camera)) ∧
      g.HeldBetween c.view.camera d.view.camera := by
  cases g with
  | pan start origin =>
    have hmoved : Holds (.pan start origin) (c.setCamera ⟨origin.x + (q.x - start.x),
      origin.y + (q.y - start.y), c.view.camera.scale⟩) := h.setCamera h.scale
    refine ⟨_, _, move_of_pan h.gesture q, hmoved, ?_, .inl rfl⟩
    have hx : ∀ a b c : ℚ, a - (b + (a - c)) = c - b := fun a b c => by ring
    rw [grip_pan hmoved.scale]
    simp only [Canvas.setCamera, Gesture.hold, hx]
  | drag n start origin =>
    obtain ⟨b, hb⟩ := h.box n start origin rfl
    have hmoved := h.place (b.moveTo ⟨origin.x + (q.x - start.x) / c.view.camera.scale,
      origin.y + (q.y - start.y) / c.view.camera.scale⟩)
    refine ⟨_, _, move_of_drag h.gesture hb h.scale.ne' q, hmoved, ?_, rfl⟩
    have hx : ∀ a b c d s : ℚ, (a - b) / s - (d + (a - c) / s) = (c - b) / s - d :=
      fun a b c d s => by ring
    rw [grip_drag hmoved.scale (Keyed.find?_put_self _ _ _)]
    simp only [View.place, Box.moveTo, Gesture.hold, hx]

end Holds

end Canvas
end SchemaDiagram
