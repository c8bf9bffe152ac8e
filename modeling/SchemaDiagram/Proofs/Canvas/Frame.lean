/-
# What framing divides by

Framing divides the window by the extent of the boxes and the margin around them.
The extent is from the least to the greatest coordinate (`Bounds.Around`). Boxes that
have a width are never too narrow to be framed; boxes that all lie on one line, each
without height, are too low to be framed without a margin, and no others are
(`Camera.fit_eq_error_iff`).

Key definitions: `Bounds.Around`, `Flat`.
Key theorems: `Bounds.around_of_ofBoxes?`, `Bounds.Around.top_eq_bottom_iff`,
`Camera.fit_eq_error_iff`.
-/
import Mathlib.Tactic.Linarith
import SchemaDiagram.Proofs.Canvas.Camera

namespace SchemaDiagram

/-- There are boxes, and all of them lie on one line and have no height. -/
def Flat (boxes : List (Box ℚ)) : Prop :=
  boxes ≠ [] ∧ ∃ y, ∀ b ∈ boxes, b.y = y ∧ b.height = 0

namespace Bounds

/-- The smallest rectangle around the boxes. -/
structure Around (r : Bounds ℚ) (boxes : List (Box ℚ)) : Prop where
  left : (boxes.map (·.x)).min? = some r.left
  top : (boxes.map (·.y)).min? = some r.top
  right : (boxes.map Box.right).max? = some r.right
  bottom : (boxes.map Box.bottom).max? = some r.bottom

theorem foldl_add (r : Bounds ℚ) (boxes : List (Box ℚ)) :
    boxes.foldl add r =
      ⟨(boxes.map (·.x)).foldl min r.left, (boxes.map (·.y)).foldl min r.top,
        (boxes.map Box.right).foldl max r.right, (boxes.map Box.bottom).foldl max r.bottom⟩ := by
  induction boxes generalizing r with
  | nil => rfl
  | cons b boxes ih =>
    rw [List.foldl_cons, ih]
    simp only [add, Scalar.smaller_eq_min, Scalar.larger_eq_max, List.map_cons, List.foldl_cons]

theorem around_of_ofBoxes? {boxes : List (Box ℚ)} {r : Bounds ℚ} (h : ofBoxes? boxes = some r) :
    r.Around boxes := by
  cases boxes with
  | nil => cases h
  | cons b boxes =>
    obtain rfl := Option.some.inj h
    rw [foldl_add]
    constructor <;> rfl

namespace Around

variable {r : Bounds ℚ} {boxes : List (Box ℚ)}

theorem ne_nil (h : r.Around boxes) : boxes ≠ [] := by
  rintro rfl
  cases h.left

theorem left_le (h : r.Around boxes) {b : Box ℚ} (hb : b ∈ boxes) : r.left ≤ b.x :=
  (List.min?_eq_some_iff.1 h.left).2 _ (List.mem_map_of_mem hb)

theorem le_right (h : r.Around boxes) {b : Box ℚ} (hb : b ∈ boxes) : b.right ≤ r.right :=
  (List.max?_eq_some_iff.1 h.right).2 _ (List.mem_map_of_mem hb)

theorem top_le (h : r.Around boxes) {b : Box ℚ} (hb : b ∈ boxes) : r.top ≤ b.y :=
  (List.min?_eq_some_iff.1 h.top).2 _ (List.mem_map_of_mem hb)

theorem le_bottom (h : r.Around boxes) {b : Box ℚ} (hb : b ∈ boxes) : b.bottom ≤ r.bottom :=
  (List.max?_eq_some_iff.1 h.bottom).2 _ (List.mem_map_of_mem hb)

theorem left_lt_right (h : r.Around boxes) (hwidth : ∀ b ∈ boxes, 0 < b.width) :
    r.left < r.right := by
  obtain ⟨b, hb, hleft⟩ := List.mem_map.1 (List.min?_eq_some_iff.1 h.left).1
  have hright : b.right ≤ r.right :=
    (List.max?_eq_some_iff.1 h.right).2 _ (List.mem_map_of_mem hb)
  calc r.left = b.x := hleft.symm
    _ < b.x + b.width := lt_add_of_pos_right b.x (hwidth b hb)
    _ ≤ r.right := hright

theorem top_le_bottom (h : r.Around boxes) (hheight : ∀ b ∈ boxes, 0 ≤ b.height) :
    r.top ≤ r.bottom := by
  obtain ⟨b, hb, htop⟩ := List.mem_map.1 (List.min?_eq_some_iff.1 h.top).1
  calc r.top = b.y := htop.symm
    _ ≤ b.y + b.height := le_add_of_nonneg_right (hheight b hb)
    _ ≤ r.bottom := h.le_bottom hb

/-- The bounds have no height exactly if the boxes are flat. -/
theorem top_eq_bottom_iff (h : r.Around boxes) (hheight : ∀ b ∈ boxes, 0 ≤ b.height) :
    r.top = r.bottom ↔ Flat boxes := by
  constructor
  · intro heq
    refine ⟨h.ne_nil, r.top, fun b hb => ?_⟩
    have htop : r.top ≤ b.y := h.top_le hb
    have hbottom : b.y + b.height ≤ r.top := heq ▸ h.le_bottom hb
    have hnonneg : 0 ≤ b.height := hheight b hb
    exact ⟨by linarith, by linarith⟩
  · rintro ⟨-, y, hy⟩
    obtain ⟨b, hb, htop⟩ := List.mem_map.1 (List.min?_eq_some_iff.1 h.top).1
    obtain ⟨c, hc, hbottom⟩ := List.mem_map.1 (List.max?_eq_some_iff.1 h.bottom).1
    calc r.top = y := htop.symm.trans (hy b hb).1
      _ = c.y + c.height := by rw [(hy c hc).1, (hy c hc).2, add_zero]
      _ = r.bottom := hbottom

end Around
end Bounds

namespace Camera

theorem frame_eq_error_iff {rule : CameraRule ℚ} {r : Bounds ℚ} {size : Extent ℚ} {f : Fault} :
    frame rule r size = .error f ↔ f = .divisionByZero ∧
      (r.right - r.left + rule.fitMargin = 0 ∨ r.bottom - r.top + rule.fitMargin = 0) := by
  constructor
  · intro h
    rcases bind_eq_error_iff.1 h with hacross | ⟨across, -, h⟩
    · exact (Scalar.quotient_eq_error_iff.1 hacross).imp_right .inl
    · rcases bind_eq_error_iff.1 h with hdown | ⟨down, -, h⟩
      · exact (Scalar.quotient_eq_error_iff.1 hdown).imp_right .inr
      · cases h
  · rintro ⟨rfl, hzero⟩
    by_cases hwidth : r.right - r.left + rule.fitMargin = 0
    · exact bind_eq_error_iff.2 (.inl (Scalar.quotient_eq_error_iff.2 ⟨rfl, hwidth⟩))
    · have hdown := Scalar.quotient_eq_error_iff (a := size.height).2
        ⟨rfl, hzero.resolve_left hwidth⟩
      exact bind_eq_error_iff.2
        (.inr ⟨_, Scalar.quotient_of_ne_zero _ hwidth, bind_eq_error_iff.2 (.inl hdown)⟩)

/-- Framing fails only for flat boxes and only without a margin. -/
theorem fit_eq_error_iff {rule : CameraRule ℚ} (hmargin : 0 ≤ rule.fitMargin)
    {boxes : List (Box ℚ)} (hboxes : ∀ b ∈ boxes, 0 < b.width ∧ 0 ≤ b.height) {size : Extent ℚ}
    {f : Fault} :
    fit rule boxes size = .error f ↔ f = .divisionByZero ∧ rule.fitMargin = 0 ∧ Flat boxes := by
  rw [fit]
  cases hr : Bounds.ofBoxes? boxes with
  | none =>
    cases boxes with
    | nil => exact ⟨fun h => (by cases h), fun h => absurd rfl h.2.2.1⟩
    | cons b boxes => cases hr
  | some r =>
    have haround := Bounds.around_of_ofBoxes? hr
    have hwidth : r.left < r.right := haround.left_lt_right fun b hb => (hboxes b hb).1
    have hheight : r.top ≤ r.bottom := haround.top_le_bottom fun b hb => (hboxes b hb).2
    have hzero : r.right - r.left + rule.fitMargin = 0 ∨ r.bottom - r.top + rule.fitMargin = 0 ↔
        rule.fitMargin = 0 ∧ r.top = r.bottom := by
      constructor
      · rintro (h | h)
        · exact absurd h (by linarith)
        · exact ⟨by linarith, by linarith⟩
      · rintro ⟨hm, heq⟩
        exact .inr (by rw [hm, heq, sub_self, add_zero])
    rw [map_eq_error_iff, frame_eq_error_iff, hzero,
      haround.top_eq_bottom_iff fun b hb => (hboxes b hb).2]

end Camera
end SchemaDiagram
