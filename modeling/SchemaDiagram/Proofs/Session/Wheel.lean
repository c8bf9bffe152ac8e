/-
# Which way the wheel zooms

A turn of the wheel takes the scale times a factor to between the limits of zooming. At
a scale between these limits it goes the way it is turned, and only there: above them a
turn up zooms out, and below them a turn down zooms in. The scale is between other
limits after framing, which comes to every scale between these
(`Session.exists_reachable_scale`), and before anything is loaded it is between none. So
the settings for which the wheel always goes the right way are those whose limits of
zooming hold all these scales.

Key definitions: `Settings.ZoomsCover`, `Session.FollowsWheel`.
Key theorems: `Camera.le_scale_wheel_iff`, `Camera.scale_wheel_le_iff`,
`Session.exists_reachable_scale`, `Session.Reachable.followsWheel_iff`,
`Session.wheel_direction_iff`.
-/
import SchemaDiagram.Proofs.Canvas.Frame
import SchemaDiagram.Proofs.Session.Pointer

namespace SchemaDiagram

/-! ### Cameras -/

namespace Camera

variable {rule : CameraRule ℚ} {c d : Camera ℚ} {p : Point ℚ} {turn : ℚ}

/-- A turn up does not zoom out exactly at the scales up to the greatest. -/
theorem le_scale_wheel_iff (hzoom : 1 < rule.zoomIn) (hlimits : rule.zoomMin ≤ rule.zoomMax)
    (hc : 0 < c.scale) (h : c.wheel rule p turn = .ok d) (hturn : turn < 0) :
    c.scale ≤ d.scale ↔ c.scale ≤ rule.zoomMax := by
  have hgrow : c.scale ≤ c.scale * rule.zoomIn := le_mul_of_one_le_right hc.le hzoom.le
  have hup : turn < 0.0 := Scalar.zero_literal ▸ hturn
  rw [scale_wheel h, if_pos hup, Scalar.le_clamp_iff]
  constructor
  · rintro (hlow | ⟨hhigh, -⟩)
    · exact hlow.trans hlimits
    · exact hhigh
  · exact fun hhigh => .inr ⟨hhigh, hgrow⟩

/-- A turn down does not zoom in exactly at the scales from the least. -/
theorem scale_wheel_le_iff (hzoom : rule.zoomOut < 1) (hc : 0 < c.scale)
    (h : c.wheel rule p turn = .ok d) (hturn : 0 ≤ turn) :
    d.scale ≤ c.scale ↔ rule.zoomMin ≤ c.scale := by
  have hshrink : c.scale * rule.zoomOut ≤ c.scale := mul_le_of_le_one_right hc.le hzoom.le
  have hdown : ¬turn < 0.0 := not_lt.2 (Scalar.zero_literal ▸ hturn)
  rw [scale_wheel h, if_neg hdown, Scalar.clamp_le_iff]
  exact and_iff_left (.inr hshrink)

/-- What is framed in a window `v` times as large is framed at the scale `v`. -/
theorem exists_frame_eq_ok {r : Bounds ℚ} (hwidth : 0 < r.right - r.left + rule.fitMargin)
    (hheight : 0 < r.bottom - r.top + rule.fitMargin) {v : ℚ} (hmin : rule.fitMin ≤ v)
    (hmax : v ≤ rule.fitMax) : ∃ size c, frame rule r size = .ok c ∧ c.scale = v := by
  refine ⟨⟨v * (r.right - r.left + rule.fitMargin), v * (r.bottom - r.top + rule.fitMargin)⟩, ?_⟩
  rw [frame, Scalar.quotient_of_ne_zero _ hwidth.ne', Scalar.quotient_of_ne_zero _ hheight.ne']
  refine ⟨_, rfl, ?_⟩
  simp only [mul_div_cancel_right₀ _ hwidth.ne', mul_div_cancel_right₀ _ hheight.ne',
    Scalar.smaller_eq_min, min_self]
  exact Scalar.clamp_of_mem hmin hmax

end Camera

/-- A reported height that is far above the one on record replaces it. -/
theorem View.reportHeight_of_above {v : View ℚ} {n : String} {b : Box ℚ} {height : ℚ}
    (hb : v.boxes.find? n = some b) (h : b.height + 1 < height) :
    v.reportHeight n height = (true, v.place n { b with height := height }) := by
  have hfar : ¬Scalar.magnitude (b.height - height) ≤ 1.0 := by
    have hnegative : b.height - height < 0.0 := by linarith
    rw [Scalar.magnitude, if_pos hnegative]
    linarith
  simp only [View.reportHeight, hb, if_neg hfar]

/-- The first scale and the scales of framing are scales of zooming. -/
structure Settings.ZoomsCover (settings : Settings ℚ) : Prop where
  le_first : settings.zoomMin ≤ 0.85
  first_le : 0.85 ≤ settings.zoomMax
  le_fit : settings.zoomMin ≤ settings.fitMin
  fit_le : settings.fitMax ≤ settings.zoomMax

theorem Settings.Allows.zooms {settings : Settings ℚ} (hs : settings.InRange)
    (hcover : settings.ZoomsCover) {x : ℚ} (h : settings.Allows x) :
    settings.zoomMin ≤ x ∧ x ≤ settings.zoomMax := by
  cases h with
  | first => exact ⟨hcover.le_first, hcover.first_le⟩
  | zoomed v => exact ⟨Scalar.le_clamp _ _ _, Scalar.clamp_le hs.zoomMin_le v⟩
  | fitted v =>
    exact ⟨hcover.le_fit.trans (Scalar.le_clamp _ _ _),
      (Scalar.clamp_le hs.fitMin_le v).trans hcover.fit_le⟩

namespace Session

section

variable [Sunflower ℚ] {settings : Settings ℚ} {s : Session ℚ}

/-! ### Every scale of framing is reached -/

theorem Reachable.select (h : Reachable settings s) {n : String} (hn : s.knows n = true) :
    Reachable settings (s.setView (s.view.select n)) :=
  step_select hn ⟨[]⟩ ▸ h.step _ _ trivial

theorem Reachable.reportHeight (h : Reachable settings s) {n : String} {b : Box ℚ}
    (hb : s.view.boxes.find? n = some b) {height : ℚ} (habove : b.height + 1 < height) :
    Reachable settings (s.setView (s.view.place n { b with height := height })) := by
  have hstep : (s.step ⟨[]⟩ (.reportHeight n height)).2 =
      s.setView (s.view.place n { b with height := height }) := by
    simp only [Session.step, Session.reportHeight, View.reportHeight_of_above hb habove]
  exact hstep ▸ h.step _ _ trivial

/-- One box that is not flat is shown. -/
theorem exists_reachable_shownBoxes (hs : settings.InRange) :
    ∃ s b, Reachable settings s ∧ s.shownBoxes = [b] ∧ 0 < b.width ∧ 0 < b.height := by
  let m : Schema := .parse "model A \x7b\n\x7d"
  let e : Entity := ⟨"A", [], [], []⟩
  have hm : m.entities = [e] := by decide +kernel
  let loaded : Session ℚ := (Session.start settings).install m "A"
  have hloaded : Reachable settings loaded :=
    .step ⟨[]⟩ (.load "model A \x7b\n\x7d" "A") .start trivial
  have hknows : loaded.knows "A" = true :=
    Schema.hasEntity_iff.2 (List.mem_map_of_mem (hm ▸ List.mem_singleton_self e : e ∈ m.entities))
  let selected := loaded.setView (loaded.view.select "A")
  have hselected : Reachable settings selected := hloaded.select hknows
  let b := settings.spiral.box 0 e
  have hb : selected.view.boxes.find? "A" = some b := by
    show (settings.spiral.place m.entities).find? "A" = some b
    rw [hm]
    exact Keyed.find?_put_self _ _ _
  -- settings may let headers have no height
  let height := max b.height 0 + 2
  have habove : b.height + 1 < height := by
    have hle : b.height ≤ max b.height 0 := le_max_left _ _
    linarith
  let measured := selected.setView (selected.view.place "A" { b with height := height })
  have hmeasured : Reachable settings measured := hselected.reportHeight hb habove
  have hshown : measured.shown = [e] := by
    show m.entities.filter (fun e => measured.view.selected.has e.name) = [e]
    rw [hm]
    rfl
  refine ⟨measured, { b with height := height }, hmeasured, ?_, ?_, ?_⟩
  · rw [shownBoxes, hshown]
    show ((selected.view.boxes.put "A" _).find? "A").toList = _
    rw [Keyed.find?_put_self]
    rfl
  · exact Scalar.pos_of_literal hs.nodeWidth
  · have hnonneg : 0 ≤ max b.height 0 := le_max_right _ _
    linarith

/-- **Framing comes to every scale between its limits**, in a window of the right size. -/
theorem exists_reachable_scale (hs : settings.InRange) {v : ℚ} (hmin : settings.fitMin ≤ v)
    (hmax : v ≤ settings.fitMax) : ∃ s, Reachable settings s ∧ s.view.camera.scale = v := by
  obtain ⟨s, b, hreach, hboxes, hwidth, hheight⟩ := exists_reachable_shownBoxes hs
  have hmargin : 0 ≤ settings.fitMargin := Scalar.nonneg_of_literal hs.fitMargin
  have hacross : 0 < b.right - b.x + settings.cameraRule.fitMargin := by
    show 0 < b.x + b.width - b.x + settings.fitMargin
    linarith
  have hdown : 0 < b.bottom - b.y + settings.cameraRule.fitMargin := by
    show 0 < b.y + b.height - b.y + settings.fitMargin
    linarith
  have hframe : ∃ size c, Camera.frame settings.cameraRule (.ofBox b) size = .ok c ∧ c.scale = v :=
    Camera.exists_frame_eq_ok hacross hdown hmin hmax
  obtain ⟨size, c, hc, hscale⟩ := hframe
  let resized := { s with window := size }
  have hresized : Reachable settings resized := hreach.step ⟨[]⟩ (.resize size) trivial
  have hfit : resized.fit = .ok (true, { resized with canvas := resized.canvas.setCamera c }) := by
    have hshown : resized.shownBoxes = [b] := hboxes
    have hcamera : Camera.fit settings.cameraRule [b] size = .ok (some c) :=
      map_eq_ok_iff.2 ⟨c, hc, rfl⟩
    rw [Session.fit, hshown, hresized.sound.settings_eq, hcamera]
    rfl
  have hstep : (resized.step ⟨[]⟩ .fit).2 =
      { resized with canvas := resized.canvas.setCamera c } := by
    rw [step, hfit]
    rfl
  exact ⟨_, hresized.step ⟨[]⟩ .fit trivial, by rw [hstep]; exact hscale⟩

/-! ### The way of the wheel -/

/-- The wheel turned up never zooms out, and turned down it never zooms in. -/
def FollowsWheel (s : Session ℚ) : Prop :=
  ∀ files p turn,
    (turn < 0 →
      s.view.camera.scale ≤ (s.step files (.wheel p turn)).2.view.camera.scale) ∧
    (0 < turn →
      (s.step files (.wheel p turn)).2.view.camera.scale ≤ s.view.camera.scale)

namespace Reachable

theorem exists_step_wheel (hs : settings.InRange) (h : Reachable settings s) (files : Files)
    (p : Point ℚ) (turn : ℚ) :
    ∃ d, s.view.camera.wheel settings.cameraRule p turn = .ok d ∧
      s.step files (.wheel p turn) =
        (.ok (.number d.scale), { s with canvas := s.canvas.setCamera d }) := by
  have hzoom : 0 < s.settings.zoomMin := h.sound.settings_eq ▸ Scalar.pos_of_literal hs.zoomMin
  obtain ⟨d, hd, -, -, hstep⟩ := Session.exists_step_wheel hzoom (h.scale_pos hs) files p turn
  exact ⟨d, h.sound.settings_eq ▸ hd, hstep⟩

theorem wheel_up_iff (hs : settings.InRange) (h : Reachable settings s) (files : Files)
    (p : Point ℚ) {turn : ℚ} (hturn : turn < 0) :
    s.view.camera.scale ≤ (s.step files (.wheel p turn)).2.view.camera.scale ↔
      s.view.camera.scale ≤ settings.zoomMax := by
  obtain ⟨d, hd, hstep⟩ := h.exists_step_wheel hs files p turn
  have hzoom : 1 < settings.cameraRule.zoomIn := lt_of_eq_of_lt (by norm_num) hs.zoomIn
  rw [hstep]
  exact Camera.le_scale_wheel_iff hzoom hs.zoomMin_le (h.scale_pos hs) hd hturn

theorem wheel_down_iff (hs : settings.InRange) (h : Reachable settings s) (files : Files)
    (p : Point ℚ) {turn : ℚ} (hturn : 0 ≤ turn) :
    (s.step files (.wheel p turn)).2.view.camera.scale ≤ s.view.camera.scale ↔
      settings.zoomMin ≤ s.view.camera.scale := by
  obtain ⟨d, hd, hstep⟩ := h.exists_step_wheel hs files p turn
  have hzoom : settings.cameraRule.zoomOut < 1 := lt_of_lt_of_eq hs.zoomOut_lt (by norm_num)
  rw [hstep]
  exact Camera.scale_wheel_le_iff hzoom (h.scale_pos hs) hd hturn

/-- The wheel goes the way it is turned exactly at the scales of zooming. -/
theorem followsWheel_iff (hs : settings.InRange) (h : Reachable settings s) :
    s.FollowsWheel ↔
      settings.zoomMin ≤ s.view.camera.scale ∧ s.view.camera.scale ≤ settings.zoomMax := by
  constructor
  · intro hfollows
    obtain ⟨hup, -⟩ := hfollows ⟨[]⟩ ⟨0, 0⟩ (-1)
    obtain ⟨-, hdown⟩ := hfollows ⟨[]⟩ ⟨0, 0⟩ 1
    exact ⟨(h.wheel_down_iff hs _ _ zero_le_one).1 (hdown one_pos),
      (h.wheel_up_iff hs _ _ neg_one_lt_zero).1 (hup neg_one_lt_zero)⟩
  · rintro ⟨hmin, hmax⟩ files p turn
    exact ⟨fun hturn => (h.wheel_up_iff hs files p hturn).2 hmax,
      fun hturn => (h.wheel_down_iff hs files p hturn.le).2 hmin⟩

end Reachable

/-- **Which way the wheel zooms.** For settings that are accepted and in every session
that is reached, turning the wheel never fails, and at this scale it never goes the
wrong way, whatever is turned and wherever, exactly if the limits of zooming hold the
scale. All sessions are at such scales exactly if these limits hold the first scale and
the limits of framing. -/
theorem wheel_direction_iff (hs : settings.InRange) :
    (∀ s, Reachable settings s →
      (∀ files p turn, ∃ x, (s.step files (.wheel p turn)).1 = .ok (.number x)) ∧
        (s.FollowsWheel ↔
          settings.zoomMin ≤ s.view.camera.scale ∧ s.view.camera.scale ≤ settings.zoomMax)) ∧
      ((∀ s, Reachable settings s → s.FollowsWheel) ↔ settings.ZoomsCover) := by
  refine ⟨fun s h => ⟨fun files p turn => ?_, h.followsWheel_iff hs⟩, fun hall => ?_, ?_⟩
  · obtain ⟨d, -, hstep⟩ := h.exists_step_wheel hs files p turn
    exact ⟨d.scale, by rw [hstep]⟩
  · have hbetween : ∀ s, Reachable settings s → settings.zoomMin ≤ s.view.camera.scale ∧
        s.view.camera.scale ≤ settings.zoomMax :=
      fun s h => (h.followsWheel_iff hs).1 (hall s h)
    obtain ⟨hfirst, hfirst'⟩ := hbetween _ .start
    obtain ⟨s, hleast, hs'⟩ := exists_reachable_scale hs le_rfl hs.fitMin_le
    obtain ⟨t, hgreatest, ht⟩ := exists_reachable_scale hs hs.fitMin_le le_rfl
    exact ⟨hfirst, hfirst', hs' ▸ (hbetween s hleast).1, ht ▸ (hbetween t hgreatest).2⟩
  · intro hcover s h
    exact (h.followsWheel_iff hs).2 (h.sound.canvas.view.scale.zooms hs hcover)

end

/-- With the stock settings the wheel always goes the way it is turned. -/
theorem wheel_direction_iff_stock :
    letI : Sunflower ℚ := ⟨fun _ => 1, fun _ => 0, fun _ => 0⟩
    (Settings.stock : Settings ℚ).InRange ∧
      ∀ s, Reachable (Settings.stock : Settings ℚ) s → s.FollowsWheel := by
  let _ : Sunflower ℚ := ⟨fun _ => 1, fun _ => 0, fun _ => 0⟩
  have hcover : (Settings.stock : Settings ℚ).ZoomsCover := by
    constructor <;> norm_num [Settings.stock]
  exact ⟨Settings.inRange_stock, (wheel_direction_iff Settings.inRange_stock).2.2 hcover⟩

/-- With limits of framing above those of zooming, a turn up after framing zooms out. -/
theorem wheel_direction_framed :
    letI : Sunflower ℚ := ⟨fun _ => 1, fun _ => 0, fun _ => 0⟩
    let settings : Settings ℚ := { Settings.stock with fitMin := 3, fitMax := 4 }
    let framed := ((Session.start settings).run ⟨[]⟩
      [.load "model A \x7b\n\x7d" "a", .select "A", .fit]).2
    let turned := (framed.step ⟨[]⟩ (.wheel ⟨0, 0⟩ (-1))).2
    settings.InRange ∧ Reachable settings framed ∧ framed.view.camera.scale = 3 ∧
      turned.view.camera.scale = 2.8 ∧ ¬framed.FollowsWheel := by
  let _ : Sunflower ℚ := ⟨fun _ => 1, fun _ => 0, fun _ => 0⟩
  intro settings framed turned
  have hs : settings.InRange := by
    constructor <;> norm_num [settings, Settings.stock]
  have hstart : Reachable settings (.start settings) := .start
  have hloaded := hstart.step ⟨[]⟩ (.load "model A \x7b\n\x7d" "a") trivial
  have hframed : Reachable settings framed :=
    (hloaded.step ⟨[]⟩ (.select "A") trivial).step ⟨[]⟩ .fit trivial
  have hscale : framed.view.camera.scale = 3 := by decide +kernel
  have hturned : turned.view.camera.scale = 2.8 := by decide +kernel
  refine ⟨hs, hframed, hscale, hturned, fun hfollows => ?_⟩
  obtain ⟨hup, -⟩ := hfollows ⟨[]⟩ ⟨0, 0⟩ (-1)
  have hle : framed.view.camera.scale ≤ turned.view.camera.scale := hup neg_one_lt_zero
  rw [hscale, hturned] at hle
  exact absurd hle (by norm_num)

end Session
end SchemaDiagram
