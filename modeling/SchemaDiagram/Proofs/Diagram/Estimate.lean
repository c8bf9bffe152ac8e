/-
# Boxes of estimated size

Until its drawn height is reported, a box has the width of all boxes and the height
that is estimated for some entity, so it is at least as high as a header
(`Box.Estimated.size`). Selecting, filtering and moving boxes keep their sizes, and so
does revealing the target of a stub, wherever the stub is.

Key definitions: `Box.Estimated`, `View.Estimated`.
Key theorems: `Box.Estimated.size`, `Spiral.estimated_place`,
`View.Estimated.reveal`.
-/
import SchemaDiagram.Proofs.Diagram.Sound

namespace SchemaDiagram

section

variable {α : Type} [Scalar α]

/-- The box has the size that is estimated for some entity. -/
def Box.Estimated (rule : Spiral α) (b : Box α) : Prop :=
  ∃ e : Entity, b.width = rule.width ∧ b.height = rule.heights.ofEntity e

theorem Box.Estimated.moveTo {rule : Spiral α} {b : Box α} (h : b.Estimated rule) (p : Point α) :
    (b.moveTo p).Estimated rule :=
  h

namespace Spiral

variable [Sunflower α] {rule : Spiral α}

theorem estimated_box (i : Nat) (e : Entity) : (rule.box i e).Estimated rule := ⟨e, rfl, rfl⟩

theorem estimated_placeFrom {boxes : Keyed String (Box α)}
    (h : ∀ n b, boxes.find? n = some b → b.Estimated rule) (i : Nat) (es : List Entity) :
    ∀ n b, (rule.placeFrom boxes i es).find? n = some b → b.Estimated rule := by
  induction es generalizing boxes i with
  | nil => exact h
  | cons e es ih => exact ih (Keyed.forall_find?_put h (estimated_box i e)) (i + 1)

/-- The boxes that are placed first. -/
theorem estimated_place (es : List Entity) :
    ∀ n b, (rule.place es).find? n = some b → b.Estimated rule := by
  refine estimated_placeFrom (fun n b h => ?_) 0 es
  cases h

end Spiral

namespace View

/-- Every box has an estimated size, and the camera is at a scale of the settings. -/
structure Estimated (settings : Settings α) (v : View α) : Prop where
  boxes : ∀ n b, v.boxes.find? n = some b → b.Estimated settings.spiral
  scale : settings.Allows v.camera.scale

namespace Estimated

variable {settings : Settings α} {v : View α}

theorem ofBoxes {boxes : Keyed String (Box α)}
    (h : ∀ n b, boxes.find? n = some b → b.Estimated settings.spiral) :
    (View.ofBoxes boxes).Estimated settings :=
  ⟨h, .first⟩

theorem setCamera (h : v.Estimated settings) {c : Camera α} (hc : settings.Allows c.scale) :
    ({ v with camera := c } : View α).Estimated settings :=
  { h with scale := hc }

theorem select (h : v.Estimated settings) (n : String) : (v.select n).Estimated settings :=
  { h with }

theorem toggle (h : v.Estimated settings) (n : String) : (v.toggle n).Estimated settings := by
  unfold View.toggle
  split <;> exact { h with }

theorem foldl_select (h : v.Estimated settings) (ns : List String) :
    (ns.foldl View.select v).Estimated settings :=
  List.foldlRecOn ns View.select h fun _ hw n _ => hw.select n

theorem keepFilters (h : v.Estimated settings) (schema : Option Schema) :
    (keepFilters schema v).Estimated settings := by
  rw [keepFilters_eq]
  exact { h with }

theorem place (h : v.Estimated settings) {b : Box α} (hb : b.Estimated settings.spiral)
    (n : String) : (v.place n b).Estimated settings :=
  { h with boxes := Keyed.forall_find?_put h.boxes hb }

theorem reveal (h : v.Estimated settings) (s : Stub α) : (v.reveal s).Estimated settings := by
  have hselect : (v.select s.target).Estimated settings := h.select _
  simp only [View.reveal]
  split
  · exact hselect
  · next b hb => exact hselect.place ((h.boxes _ b hb).moveTo _) _

end Estimated
end View
end

/-- No entity is estimated lower than a header. -/
theorem HeightRule.base_le_ofEntity {r : HeightRule ℚ} (hfield : 0 ≤ r.perField)
    (hcap : 0 ≤ r.fieldCap) (hoption : 0 ≤ r.perOption) (e : Entity) : r.base ≤ r.ofEntity e := by
  have hcount : (0 : ℤ) ≤ min (e.fields.length : ℤ) r.fieldCap := le_min (Int.natCast_nonneg _) hcap
  have hrows : 0 ≤ Scalar.ofInt (min (e.fields.length : ℤ) r.fieldCap) * r.perField :=
    mul_nonneg (Int.cast_nonneg hcount) hfield
  have hlist : 0 ≤ Scalar.ofInt (e.options.length : ℤ) * r.perOption :=
    mul_nonneg (Int.cast_nonneg (Int.natCast_nonneg _)) hoption
  calc r.base ≤ r.base + Scalar.ofInt (min (e.fields.length : ℤ) r.fieldCap) * r.perField :=
        le_add_of_nonneg_right hrows
    _ ≤ r.ofEntity e := le_add_of_nonneg_right hlist

theorem Box.Estimated.size {settings : Settings ℚ} (hs : settings.InRange) {b : Box ℚ}
    (h : b.Estimated settings.spiral) : 0 < b.width ∧ settings.baseHeight ≤ b.height := by
  obtain ⟨e, hwidth, hheight⟩ := h
  rw [hwidth, hheight]
  refine ⟨Scalar.pos_of_literal hs.nodeWidth, ?_⟩
  exact HeightRule.base_le_ofEntity (Scalar.nonneg_of_literal hs.fieldHeight) hs.fieldCap
    (Scalar.nonneg_of_literal hs.optionHeight) e

end SchemaDiagram
