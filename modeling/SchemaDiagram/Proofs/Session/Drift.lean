/-
# Gestures do not drift

While the pointer is down it may move, the wheel may turn, and it may be pressed again. The
run without the moves is followed alongside: it changes no more than the camera, and the
views of the two runs differ in what moves write only (`Session.Strays.run`). So after the
next move they are the same, whichever moves came before.

Key definitions: `Op.stays`, `Op.moves`, `Op.zooms`, `Session.Strays`, `Session.Steady`.
Key theorems: `Session.step_move_of_gesture`, `Session.Strays.run`, `Session.Steady.of_gesture`,
`Session.no_drift`.
-/
import SchemaDiagram.Proofs.Canvas.Steer
import SchemaDiagram.Proofs.Session.Pointer

namespace SchemaDiagram

namespace Op

variable {α : Type}

/-- A move of the pointer. -/
def moves : Op α → Bool
  | .move _ => true
  | _ => false

/-- A turn of the wheel. -/
def zooms : Op α → Bool
  | .wheel _ _ => true
  | _ => false

/-- A move, a turn of the wheel or a press: the pointer stays down. -/
def stays : Op α → Bool
  | .move _ => true
  | .wheel _ _ => true
  | .press _ _ _ => true
  | _ => false

end Op

namespace Session

variable {g : Gesture ℚ} {s u t : Session ℚ}

/-- A gesture is going on in two sessions that differ in what moves write only. -/
structure Strays (g : Gesture ℚ) (u t : Session ℚ) : Prop where
  scale : 0 < u.view.camera.scale
  gesture : u.canvas.gesture = some g
  rest : t = u.setView t.view
  view : g.Strays u.view t.view

namespace Strays

theorem refl (hscale : 0 < s.view.camera.scale) (hg : s.canvas.gesture = some g) :
    Strays g s s :=
  ⟨hscale, hg, rfl, .refl g s.view⟩

theorem gesture_right (h : Strays g u t) : t.canvas.gesture = some g := by
  rw [h.rest]
  exact h.gesture

theorem scale_right (h : Strays g u t) : 0 < t.view.camera.scale := by
  rw [h.view.scale]
  exact h.scale

theorem setView_right (h : Strays g u t) (v : View ℚ) : t.setView v = u.setView v := by
  rw [h.rest]
  rfl

theorem steer (h : Strays g u t) (q : Point ℚ) : Strays g u (u.setView (g.steer q u.view)) where
  scale := h.scale
  gesture := h.gesture
  rest := rfl
  view := (Gesture.Strays.refl g u.view).steer q

end Strays

section

variable [Sunflower ℚ]

/-! ### Steps -/

theorem step_move_of_gesture (hscale : 0 < s.view.camera.scale) (hg : s.canvas.gesture = some g)
    (files : Files) (q : Point ℚ) :
    ∃ a, s.step files (.move q) = (.ok a, s.setView (g.steer q s.view)) := by
  obtain ⟨moved, hmove⟩ := Canvas.move_of_gesture hg hscale.ne' q
  exact ⟨_, step_move_of_ok hmove files⟩

theorem step_press_of_gesture (hg : s.canvas.gesture = some g) (files : Files) (p : Point ℚ)
    (entity : Option String) (button : Int) :
    s.step files (.press p entity button) = (.ok .nothing, s) := by
  rw [step, Canvas.press_of_gesture (by rw [hg]; rfl)]
  rfl

namespace Strays

/-- The sessions are the same after a move. -/
theorem step_move (h : Strays g u t) (files : Files) (q : Point ℚ) :
    ∃ a, t.step files (.move q) = (.ok a, u.setView (g.steer q u.view)) := by
  obtain ⟨a, ha⟩ := step_move_of_gesture h.scale_right h.gesture_right files q
  refine ⟨a, ?_⟩
  rw [ha, h.setView_right, h.view.steer_eq]

theorem step_wheel (h : Strays g u t) (hzoom : 0 < u.settings.zoomMin) (files : Files)
    (p : Point ℚ) (turn : ℚ) :
    ∃ c d, u.step files (.wheel p turn) = (.ok (.number c.scale), u.setView (u.view.refocus c)) ∧
      t.step files (.wheel p turn) = (.ok (.number d.scale), t.setView (t.view.refocus d)) ∧
      Strays g (u.setView (u.view.refocus c)) (t.setView (t.view.refocus d)) := by
  have hsettings : t.settings = u.settings := by
    rw [h.rest]
    rfl
  obtain ⟨c, hc, hpos, -, hu⟩ := exists_step_wheel hzoom h.scale files p turn
  obtain ⟨d, hd, -, -, ht⟩ := exists_step_wheel (hsettings ▸ hzoom) h.scale_right files p turn
  rw [hsettings] at hd
  exact ⟨c, d, hu, ht, hpos, h.gesture, h.setView_right _, h.view.wheel hc hd⟩

end Strays

/-! ### Runs -/

/-- The run with the moves and the run without them: neither fails, and the one without
them changes the camera only. -/
theorem Strays.run (h : Strays g u t) (hzoom : 0 < u.settings.zoomMin) (files : Files)
    {ops : List (Op ℚ)} (hops : ∀ op ∈ ops, op.stays = true) :
    (∀ a ∈ (t.run files ops).1, ∃ b, a = .ok b) ∧
      Strays g (u.run files (ops.filter (!·.moves))).2 (t.run files ops).2 ∧
      ∃ c, (u.run files (ops.filter (!·.moves))).2 = u.setView (u.view.refocus c) := by
  induction ops generalizing u t with
  | nil => exact ⟨fun a ha => absurd ha List.not_mem_nil, h, u.view.camera, rfl⟩
  | cons op ops ih =>
    rw [List.forall_mem_cons] at hops
    cases op with
    | move q =>
      -- the run without the moves stays where it is
      obtain ⟨a, ha⟩ := h.step_move files q
      obtain ⟨hoks, hstrays, hcamera⟩ := ih (h.steer q) hzoom hops.2
      rw [List.filter_cons_of_neg (by simp [Op.moves])]
      simp only [Session.run, ha, List.forall_mem_cons]
      exact ⟨⟨⟨a, rfl⟩, hoks⟩, hstrays, hcamera⟩
    | wheel p turn =>
      obtain ⟨c, d, hu, ht, hstrays⟩ := h.step_wheel hzoom files p turn
      obtain ⟨hoks, hstrays, e, he⟩ := ih hstrays hzoom hops.2
      rw [List.filter_cons_of_pos (by simp [Op.moves])]
      simp only [Session.run, hu, ht, List.forall_mem_cons]
      exact ⟨⟨⟨_, rfl⟩, hoks⟩, hstrays, e, he⟩
    | press p entity button =>
      have hu := step_press_of_gesture h.gesture files p entity button
      have ht := step_press_of_gesture h.gesture_right files p entity button
      obtain ⟨hoks, hstrays, hcamera⟩ := ih h hzoom hops.2
      rw [List.filter_cons_of_pos (by simp [Op.moves])]
      simp only [Session.run, hu, ht, List.forall_mem_cons]
      exact ⟨⟨⟨_, rfl⟩, hoks⟩, hstrays, hcamera⟩
    | _ => exact absurd hops.1 Bool.false_ne_true

/-- Without moves and turns of the wheel nothing changes. -/
theorem run_of_presses (hg : s.canvas.gesture = some g) (files : Files) {ops : List (Op ℚ)}
    (hops : ∀ op ∈ ops, op.stays = true ∧ op.zooms = false) :
    (s.run files (ops.filter (!·.moves))).2 = s := by
  induction ops with
  | nil => rfl
  | cons op ops ih =>
    rw [List.forall_mem_cons] at hops
    cases op with
    | move q =>
      rw [List.filter_cons_of_neg (by simp [Op.moves])]
      exact ih hops.2
    | press p entity button =>
      rw [List.filter_cons_of_pos (by simp [Op.moves]), Session.run,
        step_press_of_gesture hg files p entity button]
      exact ih hops.2
    | wheel p turn => cases hops.1.2
    | _ => cases hops.1.1

/-- What can be said of a run while the pointer is down, beside the run without its moves. -/
structure Steady (files : Files) (g : Gesture ℚ) (s : Session ℚ) (ops : List (Op ℚ)) : Prop where
  answers : ∀ a ∈ (s.run files ops).1, ∃ b, a = .ok b
  /-- After one more move it is as if the moves before had not been. -/
  last_move : ∀ q, (s.run files (ops ++ [.move q])).2 =
    (s.run files (ops.filter (!·.moves) ++ [.move q])).2
  /-- Without the moves, only the wheel writes, and it writes the camera. -/
  unmoved : ∃ c, (s.run files (ops.filter (!·.moves))).2 = s.setView (s.view.refocus c)
  /-- Moves in a pan write the offset of the camera, and in a drag the corner of the box. -/
  strays : Strays g (s.run files (ops.filter (!·.moves))).2 (s.run files ops).2
  press : ∀ p entity button,
    ((s.run files ops).2.step files (.press p entity button)).2 = (s.run files ops).2

theorem Steady.of_gesture (hg : s.canvas.gesture = some g) (hzoom : 0 < s.settings.zoomMin)
    (hscale : 0 < s.view.camera.scale) (files : Files) {ops : List (Op ℚ)}
    (hops : ∀ op ∈ ops, op.stays = true) : s.Steady files g ops := by
  obtain ⟨hoks, hstrays, hcamera⟩ := (Strays.refl hscale hg).run hzoom files hops
  refine ⟨hoks, fun q => ?_, hcamera, hstrays, fun p entity button => ?_⟩
  · obtain ⟨a, ha⟩ := hstrays.step_move files q
    obtain ⟨b, hb⟩ := step_move_of_gesture hstrays.scale hstrays.gesture files q
    rw [run_append, run_append, Session.run, Session.run, ha, hb]
  · rw [step_press_of_gesture hstrays.gesture_right]

/-- **Gestures do not drift.** Whatever moves, turns of the wheel and presses come while the
pointer is down, none fails, and of the moves only the last counts. A press that starts a
gesture leaves the view as it is, and without turns of the wheel a move back to where the
pointer was pressed brings back the view of that time. -/
theorem no_drift (hzoom : 0 < s.settings.zoomMin) (hscale : 0 < s.view.camera.scale)
    (files : Files) :
    (∀ g ops, s.canvas.gesture = some g → (∀ op ∈ ops, op.stays = true) →
      s.Steady files g ops) ∧
      ∀ p entity button g ops, s.canvas.gestureAt? p entity button = some g →
        (∀ op ∈ ops, op.stays = true ∧ op.zooms = false) →
          let down := (s.step files (.press p entity button)).2
          down.view = s.view ∧ (down.run files (ops ++ [.move p])).2 = down := by
  refine ⟨fun g ops hg hops => .of_gesture hg hzoom hscale files hops, ?_⟩
  intro p entity button g ops hg hops down
  have hdown : down.canvas.Holds g := .press hscale hg
  have hsteady : down.Steady files g ops :=
    .of_gesture hdown.gesture hzoom hdown.scale files fun op hop => (hops op hop).1
  obtain ⟨a, ha⟩ := step_move_of_gesture hdown.scale hdown.gesture files p
  have hstart : g.steer p s.view = s.view := Canvas.steer_start hg
  refine ⟨rfl, ?_⟩
  rw [hsteady.last_move, run_append, run_of_presses hdown.gesture files hops, run, ha]
  exact congrArg down.setView hstart

end

/-- A box is dragged while the wheel turns elsewhere and another press is tried; dragged
without the wheel, it comes back. -/
theorem no_drift_drag :
    letI : Sunflower ℚ := ⟨fun _ => 1, fun _ => 0, fun _ => 0⟩
    let fresh : Session ℚ := .start .stock
    let s := (fresh.step ⟨[]⟩ (.load "model A \x7b\n\x7d\nmodel B \x7b\n\x7d" "a")).2
    let down := (s.step ⟨[]⟩ (.press ⟨100, 100⟩ (some "A") 0)).2
    let drag : Gesture ℚ := .drag "A" ⟨100, 100⟩ ⟨2450, 2554⟩
    let ops : List (Op ℚ) := [.move ⟨9, 9⟩, .wheel ⟨0, 0⟩ (-1), .press ⟨1, 1⟩ none 0]
    0 < s.settings.zoomMin ∧ 0 < s.view.camera.scale ∧
      s.canvas.gestureAt? ⟨100, 100⟩ (some "A") 0 = some drag ∧ down.Steady ⟨[]⟩ drag ops ∧
      (down.run ⟨[]⟩ (ops ++ [.move ⟨185, 100⟩])).2.view.boxes.entries =
        [("A", ⟨68650 / 27, 2554, 300, 92⟩), ("B", ⟨2450, 2554, 300, 92⟩)] ∧
      (down.run ⟨[]⟩ [.move ⟨9, 9⟩, .press ⟨1, 1⟩ none 0, .move ⟨100, 100⟩]).2 = down := by
  let _ : Sunflower ℚ := ⟨fun _ => 1, fun _ => 0, fun _ => 0⟩
  intro fresh s down drag ops
  have hzoom : 0 < s.settings.zoomMin := by decide +kernel
  have hscale : 0 < s.view.camera.scale := by decide +kernel
  have hg : s.canvas.gestureAt? ⟨100, 100⟩ (some "A") 0 = some drag := by decide +kernel
  have hdown : down.canvas.gesture = some drag := by decide +kernel
  have hsteady : down.Steady ⟨[]⟩ drag ops :=
    (no_drift (s := down) hzoom hscale ⟨[]⟩).1 drag ops hdown (by decide)
  obtain ⟨-, hback⟩ := (no_drift hzoom hscale ⟨[]⟩).2 ⟨100, 100⟩ (some "A") 0 drag
    [.move ⟨9, 9⟩, .press ⟨1, 1⟩ none 0] hg (by decide)
  exact ⟨hzoom, hscale, hg, hsteady, by decide +kernel, hback⟩

end Session
end SchemaDiagram
