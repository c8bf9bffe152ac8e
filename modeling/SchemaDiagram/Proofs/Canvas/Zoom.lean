/-
# Zooming at one place

However often the zoom is changed at one place of the screen, and by whatever factors, the
same world point is drawn there: each change keeps it, also one that is cut off at a limit,
as long as scales are positive, and after every change they are between the limits. At such
scales world points and screen points determine each other.

Key definitions: `Zoom`, `Camera.zooms`, `Camera.Converts`.
Key theorems: `Camera.converts_of_scale`, `Camera.exists_zoom_eq_ok`,
`Camera.exists_zooms_eq_ok`, `Camera.visibleCenter_centerOn`, `Camera.zooms_anchored`.
-/
import SchemaDiagram.Proofs.Canvas.Camera

namespace SchemaDiagram

/-- A change of the zoom: by a factor, or by a step for a turn of the wheel. -/
inductive Zoom (α : Type) where
  | times (factor : α)
  | wheel (turn : α)

namespace Camera

section

variable {α : Type} [Scalar α]

/-- The zoom changed at a place of the screen. -/
def zoom (rule : CameraRule α) (p : Point α) (c : Camera α) : Zoom α → Except Fault (Camera α)
  | .times factor => c.zoomAt rule p factor
  | .wheel turn => Camera.wheel rule c p turn

/-- The cameras after each of some changes of the zoom at one place. -/
def zooms (rule : CameraRule α) (p : Point α) :
    Camera α → List (Zoom α) → Except Fault (List (Camera α))
  | _, [] => .ok []
  | c, z :: zs => do
    let d ← c.zoom rule p z
    let ds ← d.zooms rule p zs
    return d :: ds

/-- World points and screen points determine each other. -/
structure Converts (c : Camera α) : Prop where
  toWorld_toScreen : ∀ q, c.toWorld (c.toScreen q) = .ok q
  toScreen_toWorld : ∀ q, (c.toWorld q).map c.toScreen = .ok q

end

/-! ### Points -/

theorem converts_of_scale {c : Camera ℚ} (h : c.scale ≠ 0) : c.Converts where
  toWorld_toScreen q := by
    rw [toWorld_eq h]
    simp only [toScreen, add_sub_cancel_right, mul_div_cancel_right₀ _ h]
  toScreen_toWorld q := by
    rw [toWorld_eq h]
    simp only [Except.map, toScreen, div_mul_cancel₀ _ h, sub_add_cancel]

variable {rule : CameraRule ℚ} {c : Camera ℚ}

/-- A world point that is put in the middle of a window is seen there, at whatever scale
it was asked for. -/
theorem visibleCenter_centerOn (hmin : 0 < rule.zoomMin) (q : Point ℚ) (scale : ℚ)
    (size : Extent ℚ) : (centerOn rule q scale size).visibleCenter size = .ok q := by
  have hscale : Scalar.clamp scale rule.zoomMin rule.zoomMax ≠ 0 :=
    (lt_of_lt_of_le hmin (Scalar.le_clamp _ _ _)).ne'
  have hcenter : (centerOn rule q scale size).scale ≠ 0 := hscale
  rw [visibleCenter, toWorld_eq hcenter]
  simp only [centerOn, sub_sub_cancel, mul_div_cancel_right₀ _ hscale]

/-! ### Changes of the zoom -/

theorem exists_zoom_eq_ok (hmin : 0 < rule.zoomMin) (hlimits : rule.zoomMin ≤ rule.zoomMax)
    (hc : 0 < c.scale) (p : Point ℚ) (z : Zoom ℚ) :
    ∃ d, c.zoom rule p z = .ok d ∧ rule.zoomMin ≤ d.scale ∧ d.scale ≤ rule.zoomMax ∧
      d.toWorld p = c.toWorld p := by
  have hzoom : ∀ factor, ∃ d, c.zoomAt rule p factor = .ok d ∧ rule.zoomMin ≤ d.scale ∧
      d.scale ≤ rule.zoomMax ∧ d.toWorld p = c.toWorld p := by
    intro factor
    obtain ⟨d, hd, hscale, hanchor⟩ := exists_zoomAt_eq_ok hmin hc.ne' p factor
    refine ⟨d, hd, ?_, ?_, hanchor⟩
    · rw [hscale]
      exact Scalar.le_clamp _ _ _
    · rw [hscale]
      exact Scalar.clamp_le hlimits _
  cases z with
  | times factor => exact hzoom factor
  | wheel turn => exact hzoom (if turn < 0.0 then rule.zoomIn else rule.zoomOut)

/-- What every camera of a sequence keeps from the one before it, all keep from the
first. -/
theorem exists_zooms_eq_ok (hmin : 0 < rule.zoomMin) (hlimits : rule.zoomMin ≤ rule.zoomMax)
    (hc : 0 < c.scale) (p : Point ℚ) (zs : List (Zoom ℚ)) :
    ∃ ds, c.zooms rule p zs = .ok ds ∧ ds.length = zs.length ∧
      ∀ d ∈ ds, rule.zoomMin ≤ d.scale ∧ d.scale ≤ rule.zoomMax ∧ d.toWorld p = c.toWorld p := by
  induction zs generalizing c with
  | nil => exact ⟨[], rfl, rfl, fun d hd => absurd hd List.not_mem_nil⟩
  | cons z zs ih =>
    obtain ⟨d, hd, hleast, hgreatest, hanchor⟩ := exists_zoom_eq_ok hmin hlimits hc p z
    have hpos : 0 < d.scale := lt_of_lt_of_le hmin hleast
    obtain ⟨ds, hds, hlength, hall⟩ := ih hpos
    refine ⟨d :: ds, ?_, congrArg (· + 1) hlength, ?_⟩
    · exact bind_eq_ok_iff.2 ⟨d, hd, bind_eq_ok_iff.2 ⟨ds, hds, rfl⟩⟩
    · rw [List.forall_mem_cons]
      refine ⟨⟨hleast, hgreatest, hanchor⟩, fun e he => ?_⟩
      obtain ⟨hleast', hgreatest', hanchor'⟩ := hall e he
      exact ⟨hleast', hgreatest', hanchor'.trans hanchor⟩

/-- **Zooming is anchored.** Whatever changes of the zoom follow each other at one place of
the screen, none fails, the same world point is drawn there after each, at a scale between
the limits, and all the way world points and screen points determine each other. -/
theorem zooms_anchored (hmin : 0 < rule.zoomMin) (hlimits : rule.zoomMin ≤ rule.zoomMax)
    (hc : 0 < c.scale) (p : Point ℚ) (zs : List (Zoom ℚ)) :
    ∃ w ds, c.toWorld p = .ok w ∧ c.zooms rule p zs = .ok ds ∧ ds.length = zs.length ∧
      (∀ d ∈ ds, d.toWorld p = .ok w ∧ rule.zoomMin ≤ d.scale ∧ d.scale ≤ rule.zoomMax) ∧
      (∀ d ∈ c :: ds, d.Converts) ∧
      ∀ q scale size, (centerOn rule q scale size).visibleCenter size = .ok q := by
  obtain ⟨ds, hds, hlength, hall⟩ := exists_zooms_eq_ok hmin hlimits hc p zs
  have hworld := toWorld_eq hc.ne' p
  refine ⟨_, ds, hworld, hds, hlength, fun d hd => ?_, ?_, visibleCenter_centerOn hmin⟩
  · obtain ⟨hleast, hgreatest, hanchor⟩ := hall d hd
    exact ⟨hanchor.trans hworld, hleast, hgreatest⟩
  · rw [List.forall_mem_cons]
    refine ⟨converts_of_scale hc.ne', fun d hd => ?_⟩
    have hpos : 0 < d.scale := lt_of_lt_of_le hmin (hall d hd).1
    exact converts_of_scale hpos.ne'

/-- Changes that are cut off at both limits: the cursor stays over the same world point. -/
theorem zooms_anchored_limits :
    let rule : CameraRule ℚ := .stock
    let c : Camera ℚ := ⟨100, 60, 17 / 20⟩
    let p : Point ℚ := ⟨270, 230⟩
    0 < rule.zoomMin ∧ rule.zoomMin ≤ rule.zoomMax ∧ 0 < c.scale ∧
      ∃ ds, c.zooms rule p [.wheel (-1), .times 100, .wheel 1, .times (-3)] = .ok ds ∧
        ds.map (·.scale) = [459 / 500, 14 / 5, 322 / 125, 9 / 50] ∧
        ∀ d ∈ ds, d.toWorld p = .ok ⟨200, 200⟩ := by
  intro rule c p
  have hmin : 0 < rule.zoomMin := by decide +kernel
  have hlimits : rule.zoomMin ≤ rule.zoomMax := by decide +kernel
  have hc : 0 < c.scale := by decide +kernel
  obtain ⟨w, ds, hw, hds, -, hall, -⟩ :=
    zooms_anchored hmin hlimits hc p [.wheel (-1), .times 100, .wheel 1, .times (-3)]
  have hscales : (c.zooms rule p [.wheel (-1), .times 100, .wheel 1, .times (-3)]).map
      (List.map (·.scale)) = .ok [459 / 500, 14 / 5, 322 / 125, 9 / 50] := by
    decide +kernel
  have hworld : c.toWorld p = .ok ⟨200, 200⟩ := by decide +kernel
  obtain rfl : w = ⟨200, 200⟩ := Except.ok.inj (hw.symm.trans hworld)
  rw [hds] at hscales
  exact ⟨hmin, hlimits, hc, ds, hds, Except.ok.inj hscales, fun d hd => (hall d hd).1⟩

end Camera
end SchemaDiagram
