/-
# The scale of the camera

Every move of the camera that changes its scale takes the new scale between two
limits. With exact numbers a camera at a scale other than zero can tell the world
point under every screen point.

Key theorems: `Camera.scale_wheel`, `Camera.allows_wheel`, `Camera.allows_fit`,
`Camera.toWorld_eq`, `Camera.exists_zoomAt_eq_ok`.
-/
import SchemaDiagram.Proofs.Outcome
import SchemaDiagram.Proofs.Settings.Range

namespace SchemaDiagram
namespace Camera

section

variable {α : Type} [Scalar α] {s : Settings α}

theorem allows_centerOn (p : Point α) (scale : α) (size : Extent α) :
    s.Allows (centerOn s.cameraRule p scale size).scale :=
  .zoomed scale

theorem scale_wheel {rule : CameraRule α} {c d : Camera α} {p : Point α} {turn : α}
    (h : c.wheel rule p turn = .ok d) :
    d.scale = Scalar.clamp (c.scale * if turn < 0.0 then rule.zoomIn else rule.zoomOut)
      rule.zoomMin rule.zoomMax := by
  obtain ⟨w, -, hd⟩ := bind_eq_ok_iff.1 h
  rw [← Except.ok.inj hd]

theorem allows_wheel {c d : Camera α} {p : Point α} {turn : α}
    (h : c.wheel s.cameraRule p turn = .ok d) : s.Allows d.scale := by
  rw [scale_wheel h]
  exact .zoomed _

theorem allows_frame {r : Bounds α} {size : Extent α} {d : Camera α}
    (h : frame s.cameraRule r size = .ok d) : s.Allows d.scale := by
  obtain ⟨across, -, h⟩ := bind_eq_ok_iff.1 h
  obtain ⟨down, -, hd⟩ := bind_eq_ok_iff.1 h
  obtain rfl := Except.ok.inj hd
  exact .fitted _

theorem allows_fit {boxes : List (Box α)} {size : Extent α} {d : Camera α}
    (h : fit s.cameraRule boxes size = .ok (some d)) : s.Allows d.scale := by
  unfold fit at h
  split at h
  · cases h
  · obtain ⟨c, hc, hcd⟩ := map_eq_ok_iff.1 h
    obtain rfl := Option.some.inj hcd
    exact allows_frame hc

end

theorem toWorld_eq {c : Camera ℚ} (h : c.scale ≠ 0) (p : Point ℚ) :
    c.toWorld p = .ok ⟨(p.x - c.x) / c.scale, (p.y - c.y) / c.scale⟩ := by
  rw [toWorld, Scalar.quotient_of_ne_zero _ h, Scalar.quotient_of_ne_zero _ h]
  rfl

/-- Zooming keeps the world point under the cursor where it is drawn. -/
theorem exists_zoomAt_eq_ok {rule : CameraRule ℚ} (hrule : 0 < rule.zoomMin) {c : Camera ℚ}
    (hc : c.scale ≠ 0) (p : Point ℚ) (factor : ℚ) :
    ∃ d, c.zoomAt rule p factor = .ok d ∧
      d.scale = Scalar.clamp (c.scale * factor) rule.zoomMin rule.zoomMax ∧
      d.toWorld p = c.toWorld p := by
  have hscale : Scalar.clamp (c.scale * factor) rule.zoomMin rule.zoomMax ≠ 0 :=
    (lt_of_lt_of_le hrule (Scalar.le_clamp _ _ _)).ne'
  have hworld := toWorld_eq hc p
  rw [zoomAt, hworld]
  refine ⟨_, rfl, rfl, ?_⟩
  rw [toWorld_eq hscale]
  simp only [sub_sub_cancel, mul_div_cancel_right₀ _ hscale]

end Camera
end SchemaDiagram
