/-
# Settings in range

Settings that are accepted have positive sizes, limits in order and zoom factors
on either side of one. The scale of a camera is the first one, or a number taken
between two limits, so with exact numbers it never leaves the range that these
span, and it is positive.

Key definitions: `Settings.InRange`, `Settings.Allows`.
Key theorems: `Settings.Allows.le`, `Settings.Allows.ge`, `Settings.Allows.pos`.
-/
import SchemaDiagram.Proofs.Exact
import SchemaDiagram.Settings.Basic

namespace SchemaDiagram
namespace Settings

/-- The bounds within which settings are accepted. -/
structure InRange {α : Type} [Scalar α] (s : Settings α) : Prop where
  nodeWidth : 0.0 < s.nodeWidth
  spiralSpacing : 0.0 < s.spiralSpacing
  baseHeight : 0.0 ≤ s.baseHeight
  fieldHeight : 0.0 ≤ s.fieldHeight
  fieldCap : 0 ≤ s.fieldCap
  optionHeight : 0.0 ≤ s.optionHeight
  initialScale : 0.0 < s.initialScale
  zoomIn : 1.0 < s.zoomInFactor
  zoomOut_pos : 0.0 < s.zoomOutFactor
  zoomOut_lt : s.zoomOutFactor < 1.0
  zoomMin : 0.0 < s.zoomMin
  zoomMin_le : s.zoomMin ≤ s.zoomMax
  fitMargin : 0.0 ≤ s.fitMargin
  fitMin : 0.0 < s.fitMin
  fitMin_le : s.fitMin ≤ s.fitMax
  viewportWidth : 0.0 < s.viewportWidth
  viewportHeight : 0.0 < s.viewportHeight

theorem inRange_stock : (stock : Settings ℚ).InRange := by
  constructor <;> norm_num [stock]

/-- The scales that a camera comes to: the first one, and those of zooming and
fitting. -/
inductive Allows {α : Type} [Scalar α] (s : Settings α) : α → Prop
  | first : Allows s 0.85
  | zoomed (v : α) : Allows s (Scalar.clamp v s.zoomMin s.zoomMax)
  | fitted (v : α) : Allows s (Scalar.clamp v s.fitMin s.fitMax)

namespace Allows

variable {s : Settings ℚ} {x : ℚ}

theorem ge (h : s.Allows x) : min 0.85 (min s.zoomMin s.fitMin) ≤ x := by
  cases h with
  | first => exact min_le_left _ _
  | zoomed v =>
    apply le_trans _ (Scalar.le_clamp v s.zoomMin s.zoomMax)
    exact (min_le_right _ _).trans (min_le_left _ _)
  | fitted v =>
    apply le_trans _ (Scalar.le_clamp v s.fitMin s.fitMax)
    exact (min_le_right _ _).trans (min_le_right _ _)

theorem le (hs : s.InRange) (h : s.Allows x) : x ≤ max 0.85 (max s.zoomMax s.fitMax) := by
  cases h with
  | first => exact le_max_left _ _
  | zoomed v =>
    apply le_trans (Scalar.clamp_le hs.zoomMin_le v)
    exact (le_max_left _ _).trans (le_max_right _ _)
  | fitted v =>
    apply le_trans (Scalar.clamp_le hs.fitMin_le v)
    exact (le_max_right _ _).trans (le_max_right _ _)

theorem pos (hs : s.InRange) (h : s.Allows x) : 0 < x := by
  have hzoom : 0 < s.zoomMin := Scalar.pos_of_literal hs.zoomMin
  have hfit : 0 < s.fitMin := Scalar.pos_of_literal hs.fitMin
  apply lt_of_lt_of_le _ h.ge
  exact lt_min (by norm_num) (lt_min hzoom hfit)

end Allows
end Settings
end SchemaDiagram
