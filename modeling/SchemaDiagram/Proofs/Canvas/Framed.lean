/-
# What framing shows

Framing depends on which boxes there are and not on their order. It draws the middle of
their bounds in the middle of the window (`Camera.frame_eq`), at a scale between its
limits. If at the least scale the window has room for the bounds and the margin, it has
so at the scale taken (`Camera.framingScale_fits`), and then no point of a box is drawn
nearer to a side of the window than half the margin.

Key definitions: `Box.Covers`, `Extent.Clears`, `Bounds.padded`, `Camera.room`,
`Camera.Frames`.
Key theorems: `Bounds.ofBoxes?_eq_some_iff`, `Camera.fit_congr`, `Camera.frame_eq`,
`Camera.framingScale_fits`, `Camera.fit_frames`.
-/
import Mathlib.Tactic.Ring
import SchemaDiagram.Proofs.Canvas.Frame

namespace SchemaDiagram

/-- The point is a point of the box. -/
def Box.Covers (b : Box ℚ) (p : Point ℚ) : Prop :=
  b.x ≤ p.x ∧ p.x ≤ b.right ∧ b.y ≤ p.y ∧ p.y ≤ b.bottom

/-- The point keeps its distance from each side of the window. -/
def Extent.Clears (size : Extent ℚ) (distance : ℚ) (p : Point ℚ) : Prop :=
  distance ≤ p.x ∧ p.x ≤ size.width - distance ∧ distance ≤ p.y ∧ p.y ≤ size.height - distance

/-! ### Bounds -/

namespace Bounds

/-- How wide and high the bounds are together with the margin. -/
def padded (r : Bounds ℚ) (margin : ℚ) : Extent ℚ :=
  ⟨r.right - r.left + margin, r.bottom - r.top + margin⟩

def middle (r : Bounds ℚ) : Point ℚ :=
  ⟨(r.left + r.right) / 2, (r.top + r.bottom) / 2⟩

/-- The least and the greatest coordinates determine the bounds. -/
theorem Around.unique {r s : Bounds ℚ} {boxes : List (Box ℚ)} (hr : r.Around boxes)
    (hs : s.Around boxes) : r = s := by
  have hleft : r.left = s.left := Option.some.inj (hr.left.symm.trans hs.left)
  have htop : r.top = s.top := Option.some.inj (hr.top.symm.trans hs.top)
  have hright : r.right = s.right := Option.some.inj (hr.right.symm.trans hs.right)
  have hbottom : r.bottom = s.bottom := Option.some.inj (hr.bottom.symm.trans hs.bottom)
  cases r
  cases s
  rw [Bounds.mk.injEq]
  exact ⟨hleft, htop, hright, hbottom⟩

theorem exists_around {boxes : List (Box ℚ)} (h : boxes ≠ []) :
    ∃ r, ofBoxes? boxes = some r ∧ r.Around boxes := by
  cases boxes with
  | nil => exact absurd rfl h
  | cons b boxes => exact ⟨_, rfl, around_of_ofBoxes? rfl⟩

theorem ofBoxes?_eq_some_iff {boxes : List (Box ℚ)} {r : Bounds ℚ} :
    ofBoxes? boxes = some r ↔ r.Around boxes := by
  refine ⟨around_of_ofBoxes?, fun h => ?_⟩
  obtain ⟨s, hs, haround⟩ := exists_around h.ne_nil
  rw [hs, haround.unique h]

/-- How often and in which order the boxes are given is all the same. -/
theorem Around.congr {r : Bounds ℚ} {boxes others : List (Box ℚ)}
    (h : ∀ b, b ∈ boxes ↔ b ∈ others) (hr : r.Around boxes) : r.Around others := by
  have hmem : ∀ (f : Box ℚ → ℚ) (x : ℚ), x ∈ others.map f ↔ x ∈ boxes.map f := by
    intro f x
    simp only [List.mem_map, h]
  constructor
  · simpa only [List.min?_eq_some_iff, hmem] using hr.left
  · simpa only [List.min?_eq_some_iff, hmem] using hr.top
  · simpa only [List.max?_eq_some_iff, hmem] using hr.right
  · simpa only [List.max?_eq_some_iff, hmem] using hr.bottom

end Bounds

/-! ### The camera -/

namespace Camera

theorem fit_congr (rule : CameraRule ℚ) {boxes others : List (Box ℚ)}
    (h : ∀ b, b ∈ boxes ↔ b ∈ others) (size : Extent ℚ) :
    fit rule others size = fit rule boxes size := by
  have hbounds : Bounds.ofBoxes? others = Bounds.ofBoxes? boxes := by
    apply Option.ext
    intro r
    rw [Bounds.ofBoxes?_eq_some_iff, Bounds.ofBoxes?_eq_some_iff]
    exact ⟨.congr fun b => (h b).symm, .congr h⟩
  rw [fit, fit, hbounds]

/-- How often the bounds and the margin go into the window, across and down. -/
def room (rule : CameraRule ℚ) (r : Bounds ℚ) (size : Extent ℚ) : ℚ :=
  min (size.width / (r.padded rule.fitMargin).width)
    (size.height / (r.padded rule.fitMargin).height)

/-- The scale of framing. -/
def framingScale (rule : CameraRule ℚ) (r : Bounds ℚ) (size : Extent ℚ) : ℚ :=
  Scalar.clamp (room rule r size) rule.fitMin rule.fitMax

variable {rule : CameraRule ℚ} {r : Bounds ℚ} {size : Extent ℚ}

/-- Framing draws the middle of the bounds in the middle of the window. -/
theorem frame_eq (hwidth : (r.padded rule.fitMargin).width ≠ 0)
    (hheight : (r.padded rule.fitMargin).height ≠ 0) :
    frame rule r size = .ok
      ⟨size.width / 2 - r.middle.x * framingScale rule r size,
        size.height / 2 - r.middle.y * framingScale rule r size, framingScale rule r size⟩ := by
  have hoffset : ∀ w lo hi m s : ℚ,
      (w - (hi - lo + m) * s) / 2.0 - (lo - m / 2.0) * s = w / 2 - (lo + hi) / 2 * s := by
    intro w lo hi m s
    rw [Scalar.two_literal]
    ring
  have hacross := Scalar.quotient_of_ne_zero size.width hwidth
  have hdown := Scalar.quotient_of_ne_zero size.height hheight
  simp only [Bounds.padded] at hacross hdown
  unfold frame
  simp only [hacross, hdown, Scalar.smaller_eq_min, bind, Except.bind, hoffset]
  rfl

/-- At a scale that the window has room for, the bounds and the margin go into it. -/
theorem framingScale_fits (hroom : rule.fitMin ≤ room rule r size)
    (hwidth : 0 < (r.padded rule.fitMargin).width)
    (hheight : 0 < (r.padded rule.fitMargin).height) :
    framingScale rule r size * (r.padded rule.fitMargin).width ≤ size.width ∧
      framingScale rule r size * (r.padded rule.fitMargin).height ≤ size.height := by
  have hle : framingScale rule r size ≤ room rule r size :=
    Scalar.clamp_le_iff.2 ⟨hroom, .inr le_rfl⟩
  constructor
  · exact (le_div_iff₀ hwidth).1 (hle.trans (min_le_left _ _))
  · exact (le_div_iff₀ hheight).1 (hle.trans (min_le_right _ _))

/-- What is between two places is drawn at a distance of half the margin from both ends
of the window, if the places and the margin go into it. -/
theorem clears_of_fits {lo hi margin scale extent x : ℚ} (hscale : 0 ≤ scale)
    (hfits : scale * (hi - lo + margin) ≤ extent) (hlo : lo ≤ x) (hhi : x ≤ hi) :
    scale * margin / 2 ≤ x * scale + (extent / 2 - (lo + hi) / 2 * scale) ∧
      x * scale + (extent / 2 - (lo + hi) / 2 * scale) ≤ extent - scale * margin / 2 := by
  have hleft : 0 ≤ (x - lo) * scale := mul_nonneg (sub_nonneg.2 hlo) hscale
  have hright : 0 ≤ (hi - x) * scale := mul_nonneg (sub_nonneg.2 hhi) hscale
  constructor <;> linarith

/-- The camera frames boxes with the given bounds in the window. -/
structure Frames (c : Camera ℚ) (rule : CameraRule ℚ) (r : Bounds ℚ) (boxes : List (Box ℚ))
    (size : Extent ℚ) : Prop where
  fitMin_le : rule.fitMin ≤ c.scale
  le_fitMax : c.scale ≤ rule.fitMax
  middle : c.toScreen r.middle = ⟨size.width / 2, size.height / 2⟩
  /-- With room at the least scale every point of a box is drawn in the window, at half
  the margin from its sides or farther. -/
  clears : rule.fitMin ≤ room rule r size → ∀ b ∈ boxes, ∀ p, b.Covers p →
    size.Clears (c.scale * rule.fitMargin / 2) (c.toScreen p)

theorem frames_of_around (hmin : 0 < rule.fitMin) (hlimits : rule.fitMin ≤ rule.fitMax)
    {boxes : List (Box ℚ)} (h : r.Around boxes) (hwidth : 0 < (r.padded rule.fitMargin).width)
    (hheight : 0 < (r.padded rule.fitMargin).height) :
    ∃ c, frame rule r size = .ok c ∧ c.Frames rule r boxes size := by
  have hleast : rule.fitMin ≤ framingScale rule r size := Scalar.le_clamp _ _ _
  refine ⟨_, frame_eq hwidth.ne' hheight.ne', ⟨hleast, Scalar.clamp_le hlimits _, ?_, ?_⟩⟩
  · simp only [toScreen, add_sub_cancel]
  · intro hroom b hb p hp
    obtain ⟨hacross, hdown⟩ := framingScale_fits hroom hwidth hheight
    obtain ⟨hleft, hright, htop, hbottom⟩ := hp
    have hscale : 0 ≤ framingScale rule r size := hmin.le.trans hleast
    obtain ⟨hx, hx'⟩ :=
      clears_of_fits hscale hacross ((h.left_le hb).trans hleft) (hright.trans (h.le_right hb))
    obtain ⟨hy, hy'⟩ :=
      clears_of_fits hscale hdown ((h.top_le hb).trans htop) (hbottom.trans (h.le_bottom hb))
    exact ⟨hx, hx', hy, hy'⟩

/-- **Framing shows everything.** Boxes, if there are any, have bounds, and if these are
wide and high together with the margin, framing finds a camera that frames the boxes,
the same in whatever order they are given. -/
theorem fit_frames (hmin : 0 < rule.fitMin) (hlimits : rule.fitMin ≤ rule.fitMax)
    {boxes : List (Box ℚ)} (hboxes : boxes ≠ []) (size : Extent ℚ) :
    ∃ r : Bounds ℚ, r.Around boxes ∧
      (0 < (r.padded rule.fitMargin).width → 0 < (r.padded rule.fitMargin).height →
        ∃ c, c.Frames rule r boxes size ∧
          ∀ others, others.Perm boxes → fit rule others size = .ok (some c)) := by
  obtain ⟨r, hr, haround⟩ := Bounds.exists_around hboxes
  refine ⟨r, haround, fun hwidth hheight => ?_⟩
  obtain ⟨c, hc, hframes⟩ := frames_of_around hmin hlimits haround hwidth hheight
  refine ⟨c, hframes, fun others hperm => ?_⟩
  have hfit : fit rule boxes size = .ok (some c) := by
    unfold fit
    simp only [hr, hc, Except.map]
  rw [fit_congr rule fun b => hperm.symm.mem_iff, hfit]

/-- Two boxes of which the window has room for half, with the stock margin around them. -/
theorem fit_frames_half :
    let rule : CameraRule ℚ := .stock
    let boxes : List (Box ℚ) := [⟨400, 200, 300, 142⟩, ⟨0, 0, 300, 92⟩]
    let size : Extent ℚ := ⟨420, 300⟩
    0 < rule.fitMin ∧ rule.fitMin ≤ rule.fitMax ∧ boxes ≠ [] ∧
      ∃ c, c.scale = 1 / 2 ∧ fit rule boxes size = .ok (some c) ∧
        fit rule boxes.reverse size = .ok (some c) ∧
        ∀ b ∈ boxes, ∀ p, b.Covers p → size.Clears 35 (c.toScreen p) := by
  intro rule boxes size
  have hmin : 0 < rule.fitMin := by decide +kernel
  have hlimits : rule.fitMin ≤ rule.fitMax := by decide +kernel
  have hboxes : boxes ≠ [] := List.cons_ne_nil _ _
  obtain ⟨r, haround, hframes⟩ := fit_frames hmin hlimits hboxes size
  obtain rfl : r = ⟨0, 0, 700, 342⟩ :=
    haround.unique (Bounds.around_of_ofBoxes? (by decide +kernel))
  obtain ⟨c, hc, hfit⟩ := hframes (by decide +kernel) (by decide +kernel)
  have hsame : fit rule boxes size = .ok (some c) := hfit boxes (.refl boxes)
  have hfound : fit rule boxes size = .ok (some ⟨35, 129 / 2, 1 / 2⟩) := by decide +kernel
  obtain rfl : c = ⟨35, 129 / 2, 1 / 2⟩ :=
    Option.some.inj (Except.ok.inj (hsame.symm.trans hfound))
  have hclears := hc.clears (by decide +kernel)
  have hmargin : 1 / 2 * rule.fitMargin / 2 = 35 := by decide +kernel
  rw [hmargin] at hclears
  exact ⟨hmin, hlimits, hboxes, _, rfl, hsame, hfit _ (List.reverse_perm boxes), hclears⟩

end Camera
end SchemaDiagram
