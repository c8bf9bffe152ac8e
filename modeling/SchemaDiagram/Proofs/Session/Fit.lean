/-
# Framing in a session

As long as no drawn height is reported, every box keeps an estimated size, whichever
operations succeed or fail, whatever the reader gives and whichever stubs are activated
(`Session.Estimated.step`). So the only operations that come to divide by zero are those
that frame the selected entities, and they do so exactly if there is no margin and the
boxes of these entities all lie on one line without height. A margin or a header with
a height rules that out. All that is said of exact numbers: a sum of doubles may leave
out a height that is very small beside a coordinate.

Key definitions: `Op.measures`, `Session.framing`, `Session.Unmeasured`,
`Session.Estimated`.
Key theorems: `Session.Estimated.step`, `Session.Estimated.fit_eq_error_iff`,
`Session.step_eq_error_iff_of_framing`, `Session.Unmeasured.divides_by_zero_iff`.
-/
import SchemaDiagram.Proofs.Canvas.Frame
import SchemaDiagram.Proofs.Canvas.Grip
import SchemaDiagram.Proofs.Diagram.Estimate
import SchemaDiagram.Proofs.Session.Sound

namespace SchemaDiagram

/-- Drawn heights are reported. -/
def Op.measures {α : Type} : Op α → Bool
  | .reportHeight _ _ => true
  | _ => false

namespace Session

section

variable {α : Type} [Scalar α] [Sunflower α]

/-- The session in which an operation frames the selected entities, if it does. -/
def framing (s : Session α) : Op α → Option (Session α)
  | .fit => some s
  | .activate stub => some (s.setView (s.view.reveal stub))
  | .loadDemo =>
    match s.load demoSchema "demo schema" with
    | (false, _) => none
    | (true, t) => some t.selectAll
  | _ => none

/-- The sessions that runs of operations lead to while no drawn height is reported.
Readers are any, and so are the stubs that are activated. -/
inductive Unmeasured (settings : Settings α) : Session α → Prop
  | start : Unmeasured settings (.start settings)
  | step {s : Session α} (files : Files) (op : Op α) (hs : Unmeasured settings s)
    (hop : op.measures = false) : Unmeasured settings (s.step files op).2

end

/-- The session has these settings and boxes of estimated sizes. -/
structure Estimated {α : Type} [Scalar α] (settings : Settings α) (s : Session α) : Prop where
  settings_eq : s.settings = settings
  view : s.view.Estimated settings

namespace Estimated

section

variable {α : Type} [Scalar α] {settings : Settings α} {s : Session α}

theorem start (settings : Settings α) : (Session.start settings).Estimated settings where
  settings_eq := rfl
  view := .ofBoxes fun _ _ h => (by cases h)

theorem setView (h : s.Estimated settings) {v : View α} (hv : v.Estimated settings) :
    (s.setView v).Estimated settings :=
  ⟨h.settings_eq, hv⟩

theorem say (h : s.Estimated settings) (message : String) (isError : Bool) :
    (s.say message isError).Estimated settings :=
  ⟨h.settings_eq, h.view⟩

theorem reveal (h : s.Estimated settings) (stub : Stub α) :
    (s.setView (s.view.reveal stub)).Estimated settings :=
  h.setView (h.view.reveal stub)

theorem selectAll (h : s.Estimated settings) : s.selectAll.Estimated settings := by
  unfold Session.selectAll
  split
  · exact h
  · exact h.setView { h.view with }

theorem revealNeighbors (h : s.Estimated settings) {n : String} {ns : List String}
    {t : Session α} (ht : s.revealNeighbors n = .ok (ns, t)) : t.Estimated settings := by
  have hselect := h.setView (h.view.foldl_select ns)
  obtain ⟨-, rfl | ⟨message, rfl⟩⟩ := revealNeighbors_cases ht
  · exact hselect
  · exact hselect.say _ _

theorem fit (h : s.Estimated settings) {framed : Bool} {t : Session α}
    (ht : s.fit = .ok (framed, t)) : t.Estimated settings := by
  obtain ⟨message, rfl⟩ | ⟨c, hc, rfl⟩ := fit_cases ht
  · exact h.say _ _
  · rw [h.settings_eq] at hc
    exact h.setView (h.view.setCamera (Camera.allows_fit hc))

theorem activate (h : s.Estimated settings) (stub : Stub α) :
    (s.activate stub).2.Estimated settings := by
  obtain ⟨f, -, hf⟩ | ⟨framed, u, message, hu, hf⟩ := activate_cases s stub <;> rw [hf]
  · exact h.reveal stub
  · exact ((h.reveal stub).fit hu).say _ _

theorem move (h : s.Estimated settings) {p : Point α} {r : Option (Route α)} {t : Session α}
    (ht : s.move p = .ok (r, t)) : t.Estimated settings := by
  obtain ⟨moved, c, hc, rfl, -⟩ := move_cases ht
  refine ⟨h.settings_eq, ?_⟩
  obtain ⟨-, rfl⟩ | ⟨-, x, y, rfl⟩ | ⟨n, b, q, -, hb, rfl⟩ := Canvas.move_cases hc
  · exact h.view
  · exact h.view.setCamera h.view.scale
  · exact h.view.place ((h.view.boxes n b hb).moveTo q) n

theorem wheel (h : s.Estimated settings) {p : Point α} {turn x : α} {t : Session α}
    (ht : s.wheel p turn = .ok (x, t)) : t.Estimated settings := by
  obtain ⟨c, hc, rfl⟩ := wheel_cases ht
  rw [h.settings_eq] at hc
  exact ⟨h.settings_eq, h.view.setCamera (Camera.allows_wheel hc)⟩

variable [Sunflower α]

/-- A load that succeeds places all boxes anew. -/
theorem install (h : s.Estimated settings) (m : Schema) (label : String) :
    (s.install m label).Estimated settings := by
  have hview : (View.ofBoxes (settings.spiral.place m.entities)).Estimated settings :=
    .ofBoxes (Spiral.estimated_place m.entities)
  refine ⟨h.settings_eq, ?_⟩
  simp only [Session.install, h.settings_eq]
  exact hview.setCamera (Camera.allows_centerOn _ _ _)

theorem load (h : s.Estimated settings) (text label : String) :
    (s.load text label).2.Estimated settings := by
  obtain ⟨message, hload⟩ | ⟨m, -, hload⟩ := load_cases s text label <;> rw [hload]
  · exact h.say _ _
  · exact h.install m label

theorem loadFile (h : s.Estimated settings) (files : Files) (path : String) :
    (s.loadFile files path).2.Estimated settings := by
  obtain ⟨f, hload, -⟩ | ⟨message, hload⟩ | ⟨text, label, hload⟩ :=
    loadFile_cases files s path <;> rw [hload]
  · exact h
  · exact h.say _ _
  · exact h.load _ _

/-- Where the selected entities are framed the boxes have estimated sizes too. -/
theorem framing (h : s.Estimated settings) {op : Op α} {t : Session α}
    (ht : t ∈ s.framing op) : t.Estimated settings := by
  unfold Session.framing at ht
  split at ht
  · exact Option.some.inj ht ▸ h
  · exact Option.some.inj ht ▸ h.reveal _
  · have hload := h.load demoSchema "demo schema"
    split at ht
    · cases ht
    · next u hu =>
      rw [hu] at hload
      exact Option.some.inj ht ▸ hload.selectAll
  · cases ht

theorem loadDemo (h : s.Estimated settings) : s.loadDemo.2.Estimated settings := by
  have hload := h.load demoSchema "demo schema"
  obtain ⟨t, ht, hdemo⟩ | ⟨t, ht, ⟨f, -, hdemo⟩ | ⟨framed, u, hu, hdemo⟩⟩ := loadDemo_cases s <;>
    rw [ht] at hload <;> rw [hdemo]
  · exact hload
  · exact hload.selectAll
  · exact hload.selectAll.fit hu

/-- **Boxes keep their estimated sizes** in every operation that reports no height. -/
theorem step (h : s.Estimated settings) (files : Files) {op : Op α} (hop : op.measures = false) :
    (s.step files op).2.Estimated settings := by
  cases op with
  | load text label => exact h.load text label
  | loadFile path => exact h.loadFile files path
  | loadDemo => exact h.loadDemo
  | select name =>
    exact of_guarded (P := (·.Estimated settings)) h _ fun _ => h.setView (h.view.select name)
  | toggle name =>
    exact of_guarded (P := (·.Estimated settings)) h _ fun _ => h.setView (h.view.toggle name)
  | setFilter name relations others =>
    exact of_guarded (P := (·.Estimated settings)) h _ fun _ => h.setView { h.view with }
  | selectAll => exact h.selectAll
  | revealNeighbors name =>
    exact of_changed (P := (·.Estimated settings)) h _ fun _ _ ht => h.revealNeighbors ht
  | activate stub => exact h.activate stub
  | fit => exact of_changed (P := (·.Estimated settings)) h _ fun _ _ ht => h.fit ht
  | move at_ => exact of_changed (P := (·.Estimated settings)) h _ fun _ _ ht => h.move ht
  | wheel at_ turn => exact of_changed (P := (·.Estimated settings)) h _ fun _ _ ht => h.wheel ht
  | reportHeight name height => cases hop
  | scene => exact h.setView (h.view.keepFilters s.schema)
  | hide name => exact ⟨h.settings_eq, { h.view with }⟩
  | clear => exact ⟨h.settings_eq, { h.view with }⟩
  | search query => exact ⟨h.settings_eq, { h.view with }⟩
  | setReader reader => exact ⟨h.settings_eq, h.view⟩
  | resize window => exact ⟨h.settings_eq, h.view⟩
  | press at_ entity button => exact ⟨h.settings_eq, h.view⟩
  | release => exact ⟨h.settings_eq, h.view⟩
  | _ => exact h

end

section

variable {settings : Settings ℚ} {s : Session ℚ}

theorem size_of_mem_shownBoxes (hs : settings.InRange) (h : s.Estimated settings) {b : Box ℚ}
    (hb : b ∈ s.shownBoxes) : 0 < b.width ∧ settings.baseHeight ≤ b.height := by
  obtain ⟨e, -, he⟩ := List.mem_filterMap.1 hb
  exact (h.view.boxes e.name b he).size hs

/-- Framing fails only without a margin and for flat boxes only. -/
theorem fit_eq_error_iff (hs : settings.InRange) (h : s.Estimated settings) {f : Fault} :
    s.fit = .error f ↔ f = .divisionByZero ∧ settings.fitMargin = 0 ∧ Flat s.shownBoxes := by
  have hboxes : ∀ b ∈ s.shownBoxes, 0 < b.width ∧ 0 ≤ b.height := fun b hb =>
    (h.size_of_mem_shownBoxes hs hb).imp_right (Scalar.nonneg_of_literal hs.baseHeight).trans
  have hmargin : 0 ≤ settings.cameraRule.fitMargin := Scalar.nonneg_of_literal hs.fitMargin
  rw [Session.fit, map_eq_error_iff, h.settings_eq, Camera.fit_eq_error_iff hmargin hboxes]
  rfl

/-- Headers with a height keep boxes from being flat. -/
theorem not_flat (hs : settings.InRange) (hbase : 0 < settings.baseHeight)
    (h : s.Estimated settings) : ¬Flat s.shownBoxes := by
  rintro ⟨hne, y, hy⟩
  obtain ⟨b, hb⟩ := List.exists_mem_of_ne_nil _ hne
  have hheight : settings.baseHeight ≤ b.height := (h.size_of_mem_shownBoxes hs hb).2
  rw [(hy b hb).2] at hheight
  exact absurd hbase (not_lt.2 hheight)

end

end Estimated

theorem Unmeasured.estimated {α : Type} [Scalar α] [Sunflower α] {settings : Settings α}
    {s : Session α} (h : Unmeasured settings s) : s.Estimated settings := by
  induction h with
  | start => exact .start settings
  | step files op _ hop ih => exact ih.step files hop

/-! ### The faults of operations -/

section

variable [Sunflower ℚ] {s t : Session ℚ}

/-- An operation that frames the selected entities fails as framing does. -/
theorem step_eq_error_iff_of_framing {op : Op ℚ} (h : s.framing op = some t) (files : Files)
    {f : Fault} : (s.step files op).1 = .error f ↔ t.fit = .error f := by
  cases op with
  | fit =>
    obtain rfl := Option.some.inj h
    exact changed_eq_error_iff
  | activate stub =>
    obtain rfl := Option.some.inj h
    show (s.activate stub).1.map _ = .error f ↔ _
    rw [map_eq_error_iff]
    obtain ⟨g, hfit, hactivate⟩ | ⟨framed, u, message, hfit, hactivate⟩ := activate_cases s stub
    · rw [hactivate, hfit, Except.error.injEq, Except.error.injEq]
    · rw [hactivate, hfit]
      exact ⟨fun h => (by cases h), fun h => (by cases h)⟩
  | loadDemo =>
    show s.loadDemo.1.map _ = .error f ↔ _
    rw [map_eq_error_iff]
    obtain ⟨u, hload, -⟩ | ⟨u, hload, hdemo⟩ := loadDemo_cases s <;>
      simp only [framing, hload] at h
    · cases h
    · obtain rfl := Option.some.inj h
      obtain ⟨g, hfit, hdemo⟩ | ⟨framed, v, hfit, hdemo⟩ := hdemo
      · rw [hdemo, hfit, Except.error.injEq, Except.error.injEq]
      · rw [hdemo, hfit]
        exact ⟨fun h => (by cases h), fun h => (by cases h)⟩
  | _ => cases h

/-- Other operations do not divide by zero. -/
theorem Estimated.step_ne_divisionByZero {settings : Settings ℚ} (hs : settings.InRange)
    (h : s.Estimated settings) {op : Op ℚ} (hop : s.framing op = none) (files : Files) :
    (s.step files op).1 ≠ .error .divisionByZero := by
  intro herror
  have hscale : 0 < s.view.camera.scale := h.view.scale.pos hs
  have hzoom : 0 < s.settings.cameraRule.zoomMin :=
    h.settings_eq ▸ Scalar.pos_of_literal hs.zoomMin
  cases op with
  | fit => cases hop
  | activate stub => cases hop
  | loadFile path =>
    have hfile : (s.loadFile files path).1 = .error .divisionByZero := map_eq_error_iff.1 herror
    obtain ⟨f, hload, hf⟩ | ⟨message, hload⟩ | ⟨text, label, hload⟩ :=
      loadFile_cases files s path <;> rw [hload] at hfile
    · exact hf (Except.error.inj hfile)
    · cases hfile
    · cases hfile
  | loadDemo =>
    have hfailed : s.loadDemo.1 = .error .divisionByZero := map_eq_error_iff.1 herror
    obtain ⟨u, -, hdemo⟩ | ⟨u, hload, -⟩ := loadDemo_cases s
    · rw [hdemo] at hfailed
      cases hfailed
    · simp only [Session.framing, hload] at hop
      cases hop
  | select name => cases eq_unknown_of_guarded herror
  | toggle name => cases eq_unknown_of_guarded herror
  | setFilter name relations others => cases eq_unknown_of_guarded herror
  | neighbors name => cases eq_unknown_of_neighbors (map_eq_error_iff.1 herror)
  | hiddenNeighbors name =>
    cases eq_unknown_of_neighbors (map_eq_error_iff.1 (map_eq_error_iff.1 herror))
  | revealNeighbors name =>
    have hhidden := map_eq_error_iff.1 (changed_eq_error_iff.1 herror)
    cases eq_unknown_of_neighbors (map_eq_error_iff.1 hhidden)
  | center =>
    have hcenter := map_eq_error_iff.1 herror
    rw [center, Camera.visibleCenter, Camera.toWorld_eq hscale.ne'] at hcenter
    cases hcenter
  | move at_ =>
    have hmove := map_eq_error_iff.1 (changed_eq_error_iff.1 herror)
    obtain ⟨moved, d, hd⟩ := Canvas.exists_move_eq_ok hscale.ne' at_
    rw [hd] at hmove
    cases hmove
  | wheel at_ turn =>
    have hwheel := map_eq_error_iff.1 (changed_eq_error_iff.1 herror)
    obtain ⟨d, hd, -⟩ := Camera.exists_wheel_eq_ok hzoom hscale at_ turn
    rw [hd] at hwheel
    cases hwheel
  | _ => cases herror

/-- **What divides by zero**, if sizes and coordinates are exact numbers. While no drawn
height is reported, exactly those operations divide by zero that frame flat boxes without a
margin, so none does if there is a margin or if headers have a height. Doubles round, so
that a positive height may be lost in the sum with a large coordinate. -/
theorem Unmeasured.divides_by_zero_iff {settings : Settings ℚ} (hs : settings.InRange)
    (h : Unmeasured settings s) (files : Files) (op : Op ℚ) :
    ((s.step files op).1 = .error .divisionByZero ↔
      settings.fitMargin = 0 ∧ ∃ t ∈ s.framing op, Flat t.shownBoxes) ∧
      (0 < settings.fitMargin ∨ 0 < settings.baseHeight →
        (s.step files op).1 ≠ .error .divisionByZero) := by
  have hiff : (s.step files op).1 = .error .divisionByZero ↔
      settings.fitMargin = 0 ∧ ∃ t ∈ s.framing op, Flat t.shownBoxes := by
    cases ht : s.framing op with
    | none =>
      have hne := h.estimated.step_ne_divisionByZero hs ht files
      exact ⟨fun herror => absurd herror hne, fun ⟨_, t, hmem, _⟩ => (by cases hmem)⟩
    | some t =>
      rw [step_eq_error_iff_of_framing ht, (h.estimated.framing ht).fit_eq_error_iff hs]
      simp only [Option.mem_some, true_and, exists_eq_left']
  refine ⟨hiff, fun hpos herror => ?_⟩
  obtain ⟨hmargin, t, ht, hflat⟩ := hiff.1 herror
  rcases hpos with hpos | hpos
  · exact hpos.ne' hmargin
  · exact (h.estimated.framing ht).not_flat hs hpos hflat

end

/-- With the stock settings a model without fields can be framed. -/
theorem Unmeasured.divides_by_zero_never_stock :
    letI : Sunflower ℚ := ⟨fun _ => 1, fun _ => 0, fun _ => 0⟩
    let fresh : Session ℚ := .start .stock
    let loaded := (fresh.step ⟨[]⟩ (.load "model A \x7b\n\x7d" "a")).2
    let selected := (loaded.step ⟨[]⟩ (.select "A")).2
    (Settings.stock : Settings ℚ).InRange ∧ Unmeasured .stock selected ∧
      selected.shown.map (·.name) = ["A"] ∧
      (selected.step ⟨[]⟩ .fit).1 ≠ .error .divisionByZero := by
  let _ : Sunflower ℚ := ⟨fun _ => 1, fun _ => 0, fun _ => 0⟩
  intro fresh loaded selected
  have hloaded : Unmeasured .stock loaded := .step _ _ .start rfl
  have hselected : Unmeasured .stock selected := hloaded.step _ _ rfl
  have hbase : (0 : ℚ) < Settings.stock.baseHeight := by norm_num [Settings.stock]
  exact ⟨Settings.inRange_stock, hselected, by decide +kernel,
    (divides_by_zero_iff Settings.inRange_stock hselected _ _).2 (.inr hbase)⟩

/-- Settings without a margin and without a header height are in range, and with them a
model without fields cannot be framed. -/
theorem Unmeasured.divides_by_zero_bare :
    letI : Sunflower ℚ := ⟨fun _ => 1, fun _ => 0, fun _ => 0⟩
    let settings : Settings ℚ := { Settings.stock with fitMargin := 0, baseHeight := 0 }
    let fresh : Session ℚ := .start settings
    let loaded := (fresh.step ⟨[]⟩ (.load "model A \x7b\n\x7d" "a")).2
    let selected := (loaded.step ⟨[]⟩ (.select "A")).2
    settings.InRange ∧ Unmeasured settings selected ∧
      (selected.step ⟨[]⟩ .fit).1 = .error .divisionByZero := by
  let _ : Sunflower ℚ := ⟨fun _ => 1, fun _ => 0, fun _ => 0⟩
  intro settings fresh loaded selected
  have hrange : settings.InRange := by constructor <;> norm_num [settings, Settings.stock]
  have hloaded : Unmeasured settings loaded := .step _ _ .start rfl
  have hfit : Camera.fit settings.cameraRule selected.shownBoxes selected.window =
      .error .divisionByZero := by decide +kernel
  exact ⟨hrange, hloaded.step _ _ rfl, changed_eq_error_iff.2 (map_eq_error_iff.2 hfit)⟩

end Session
end SchemaDiagram
