/-
# Canvases that fit a schema

A canvas is sound when its view is and a box that is being dragged is the box of
a name of the schema. Gestures keep it sound.

Key definitions: `Canvas.Sound`.
Key theorems: `Canvas.move_cases`, `Canvas.Sound.press`, `Canvas.Sound.move`,
`Canvas.exists_move_eq_ok`.
-/
import SchemaDiagram.Canvas.Gesture
import SchemaDiagram.Proofs.Canvas.Camera
import SchemaDiagram.Proofs.Diagram.Sound

namespace SchemaDiagram
namespace Canvas

section

variable {α : Type} [Scalar α]

/-- A move leaves the canvas as it is, moves the camera at its scale, or moves a box and
names its entity. -/
theorem move_cases {c d : Canvas α} {p : Point α} {moved : Option String}
    (h : c.move p = .ok (moved, d)) :
    moved = none ∧ d = c ∨
      (moved = none ∧ ∃ x y, d = c.setCamera ⟨x, y, c.view.camera.scale⟩) ∨
      ∃ n b q, moved = some n ∧ c.view.boxes.find? n = some b ∧
        d = { c with view := c.view.place n (b.moveTo q) } := by
  unfold Canvas.move at h
  split at h
  · obtain ⟨rfl, rfl⟩ := Prod.mk.inj (Except.ok.inj h)
    exact .inl ⟨rfl, rfl⟩
  · obtain ⟨rfl, rfl⟩ := Prod.mk.inj (Except.ok.inj h)
    exact .inr (.inl ⟨rfl, _, _, rfl⟩)
  · split at h
    · obtain ⟨rfl, rfl⟩ := Prod.mk.inj (Except.ok.inj h)
      exact .inl ⟨rfl, rfl⟩
    · next b hb =>
      obtain ⟨dx, -, h⟩ := bind_eq_ok_iff.1 h
      obtain ⟨dy, -, h⟩ := bind_eq_ok_iff.1 h
      obtain ⟨rfl, rfl⟩ := Prod.mk.inj (Except.ok.inj h)
      exact .inr (.inr ⟨_, b, _, rfl, hb, rfl⟩)

/-- The canvas fits the names and keeps to the rule. -/
structure Sound (rule : Settings α) (names : List String) (c : Canvas α) : Prop where
  view : c.view.Sound rule names
  drag : ∀ n start origin, c.gesture = some (.drag n start origin) → n ∈ names

namespace Sound

variable {rule : Settings α} {names : List String} {c : Canvas α}

theorem setView (h : c.Sound rule names) {v : View α} (hv : v.Sound rule names) :
    ({ c with view := v } : Canvas α).Sound rule names :=
  { h with view := hv }

theorem setCamera (h : c.Sound rule names) {camera : Camera α} (hc : rule.Allows camera.scale) :
    (c.setCamera camera).Sound rule names :=
  h.setView (h.view.setCamera hc)

/-- Only an entity with a box is dragged. -/
theorem press (h : c.Sound rule names) (p : Point α) (entity : Option String) (button : Int) :
    (c.press p entity button).Sound rule names := by
  refine { h with drag := fun n start origin hg => ?_ }
  cases ha : c.gestureAt? p entity button with
  | none =>
    simp only [Canvas.press, ha, Option.none_or] at hg
    exact h.drag n start origin hg
  | some g =>
    simp only [Canvas.press, ha, Option.some_or, Option.some.injEq] at hg
    subst hg
    unfold gestureAt? at ha
    split at ha
    · cases ha
    · cases entity with
      | none => cases ha
      | some name =>
        obtain ⟨b, hb, hbg⟩ := Option.map_eq_some_iff.1 ha
        obtain ⟨rfl, -, -⟩ := Gesture.drag.inj hbg
        exact (h.view.boxes _).1 (Keyed.mem_keys_of_find? hb)

theorem move (h : c.Sound rule names) {p : Point α} {moved : Option String} {d : Canvas α}
    (hd : c.move p = .ok (moved, d)) : d.Sound rule names := by
  obtain ⟨-, rfl⟩ | ⟨-, x, y, rfl⟩ | ⟨n, b, q, -, hb, rfl⟩ := move_cases hd
  · exact h
  · exact h.setCamera h.view.scale
  · exact h.setView (h.view.place (Keyed.mem_keys_of_find? hb) _)

theorem release (h : c.Sound rule names) : c.release.Sound rule names :=
  { h with drag := fun _ _ _ hg => nomatch hg }

end Sound
end

/-- At a scale other than zero the pointer can always be followed. -/
theorem exists_move_eq_ok {c : Canvas ℚ} (h : c.view.camera.scale ≠ 0) (p : Point ℚ) :
    ∃ moved d, c.move p = .ok (moved, d) := by
  unfold move
  split
  · exact ⟨_, _, rfl⟩
  · exact ⟨_, _, rfl⟩
  · split
    · exact ⟨_, _, rfl⟩
    · rw [Scalar.quotient_of_ne_zero _ h, Scalar.quotient_of_ne_zero _ h]
      exact ⟨_, _, rfl⟩

end Canvas
end SchemaDiagram
