/-
# Following the pointer

While the pointer is down a session follows it: every move and every turn of the
wheel succeeds, and the gesture goes on (`Session.run_follow`). What the pointer
held when it was pressed it holds after each move, unless the wheel has turned in
between: then a pan holds on if the scale is the same again, and a drag if the wheel
turned where the pointer was pressed.

Key definitions: `Op.follows`, `Op.KeepsHold`.
Key theorems: `Session.Reachable.scale_pos`, `Session.exists_step_wheel`,
`Session.exists_step_follow`, `Session.run_follow`, `Session.grip_after_move`.
-/
import SchemaDiagram.Proofs.Canvas.Grip
import SchemaDiagram.Proofs.Session.Sound

namespace SchemaDiagram

/-- A move of the pointer or a turn of the wheel. -/
def Op.follows {α : Type} : Op α → Bool
  | .move _ => true
  | .wheel _ _ => true
  | _ => false

/-- A move of the pointer or, for a drag, a turn of the wheel where it began. -/
def Op.KeepsHold (g : Gesture ℚ) : Op ℚ → Prop
  | .move _ => True
  | .wheel at_ _ =>
    match g with
    | .pan _ _ => False
    | .drag _ start _ => at_ = start
  | _ => False

namespace Gesture

theorem HeldBetween.refl (g : Gesture ℚ) (c : Camera ℚ) : g.HeldBetween c c := by
  cases g with
  | pan start origin => exact .inl rfl
  | drag n start origin => exact Eq.refl (c.toWorld start)

theorem HeldBetween.symm {g : Gesture ℚ} {c d : Camera ℚ} (h : g.HeldBetween c d) :
    g.HeldBetween d c := by
  cases g with
  | pan start origin => exact h.imp_left Eq.symm
  | drag n start origin => exact Eq.symm h

theorem HeldBetween.trans {g : Gesture ℚ} {c d e : Camera ℚ} (hcd : g.HeldBetween c d)
    (hde : g.HeldBetween d e) : g.HeldBetween c e := by
  cases g with
  | pan start origin =>
    rcases hcd with hcd | horigin
    · rcases hde with hde | horigin
      · exact .inl (hde.trans hcd)
      · exact .inr horigin
    · exact .inr horigin
  | drag n start origin => exact Eq.trans hde hcd

end Gesture

namespace Session

/-- A camera that is reached has a positive scale. -/
theorem Reachable.scale_pos [Sunflower ℚ] {settings : Settings ℚ} (hs : settings.InRange)
    {s : Session ℚ} (h : Reachable settings s) : 0 < s.view.camera.scale :=
  h.sound.canvas.view.scale.pos hs

section

variable [Sunflower ℚ] {s : Session ℚ} {g : Gesture ℚ}

theorem step_move_of_ok {q : Point ℚ} {moved : Option String} {d : Canvas ℚ}
    (h : s.canvas.move q = .ok (moved, d)) (files : Files) :
    s.step files (.move q) =
      (.ok (routeAnswer (moved.map fun _ => ({ s with canvas := d } : Session ℚ).route)),
        { s with canvas := d }) := by
  rw [step, Session.move, h]
  rfl

theorem step_wheel_of_ok {q : Point ℚ} {turn : ℚ} {d : Camera ℚ}
    (h : s.view.camera.wheel s.settings.cameraRule q turn = .ok d) (files : Files) :
    s.step files (.wheel q turn) =
      (.ok (.number d.scale), { s with canvas := s.canvas.setCamera d }) := by
  rw [step, Session.wheel, h]
  rfl

/-- At a positive scale the wheel can be turned anywhere. -/
theorem exists_step_wheel (hzoom : 0 < s.settings.zoomMin) (hscale : 0 < s.view.camera.scale)
    (files : Files) (p : Point ℚ) (turn : ℚ) :
    ∃ d, s.view.camera.wheel s.settings.cameraRule p turn = .ok d ∧ 0 < d.scale ∧
      d.toWorld p = s.view.camera.toWorld p ∧
      s.step files (.wheel p turn) =
        (.ok (.number d.scale), { s with canvas := s.canvas.setCamera d }) := by
  have hrule : 0 < s.settings.cameraRule.zoomMin := hzoom
  obtain ⟨d, hd, hpos, hanchor⟩ := Camera.exists_wheel_eq_ok hrule hscale p turn
  exact ⟨d, hd, hpos, hanchor, step_wheel_of_ok hd files⟩

/-- One step while the pointer is down. -/
theorem exists_step_follow (hzoom : 0 < s.settings.zoomMin) (h : s.canvas.Holds g) (files : Files)
    {op : Op ℚ} (hop : op.follows = true) :
    ∃ a t, s.step files op = (.ok a, t) ∧ t.settings = s.settings ∧ t.canvas.Holds g ∧
      (op.KeepsHold g → g.HeldBetween s.view.camera t.view.camera) := by
  cases op with
  | move q =>
    obtain ⟨moved, d, hd, hholds, -, hheld⟩ := h.move q
    exact ⟨_, _, step_move_of_ok hd files, rfl, hholds, fun _ => hheld⟩
  | wheel at_ turn =>
    obtain ⟨d, -, hscale, hanchor, hstep⟩ := exists_step_wheel hzoom h.scale files at_ turn
    refine ⟨_, _, hstep, rfl, h.setCamera hscale, fun hk => ?_⟩
    cases g with
    | pan start origin => cases hk
    | drag n start origin =>
      obtain rfl : at_ = start := hk
      exact hanchor
  | _ => cases hop

/-- A run while the pointer is down. -/
theorem run_follow (hzoom : 0 < s.settings.zoomMin) (h : s.canvas.Holds g) (files : Files)
    {ops : List (Op ℚ)} (hops : ∀ op ∈ ops, op.follows = true) :
    (∀ a ∈ (s.run files ops).1, ∃ b, a = .ok b) ∧ (s.run files ops).2.settings = s.settings ∧
      (s.run files ops).2.canvas.Holds g ∧
      ((∀ op ∈ ops, op.KeepsHold g) →
        g.HeldBetween s.view.camera (s.run files ops).2.view.camera) := by
  induction ops generalizing s with
  | nil =>
    exact ⟨fun a ha => absurd ha List.not_mem_nil, rfl, h, fun _ => Gesture.HeldBetween.refl g _⟩
  | cons op ops ih =>
    rw [List.forall_mem_cons] at hops
    obtain ⟨a, t, ht, hsettings, hholds, hheld⟩ := exists_step_follow hzoom h files hops.1
    obtain ⟨hoks, hsettings', hholds', hheld'⟩ := ih (hsettings ▸ hzoom) hholds hops.2
    simp only [run, ht, List.forall_mem_cons]
    exact ⟨⟨⟨a, rfl⟩, hoks⟩, hsettings'.trans hsettings, hholds', fun hk =>
      (hheld hk.1).trans (hheld' hk.2)⟩

/-- **What the pointer holds.** Whatever moves and turns of the wheel follow a press
that starts a gesture, none of them fails, and after each move the pointer holds what
it held at the press exactly if, for a pan, the scale is the same or the origin of
the world is held, and for a drag, the same world point is drawn where the pointer was
pressed. So it does if the wheel has not turned, and in a drag if it has turned there
only. -/
theorem grip_after_move (hzoom : 0 < s.settings.zoomMin) (hscale : 0 < s.view.camera.scale)
    {p : Point ℚ} {entity : Option String} {button : Int}
    (hg : s.canvas.gestureAt? p entity button = some g) (files : Files) {ops : List (Op ℚ)}
    (hops : ∀ op ∈ ops, op.follows = true) (q : Point ℚ) :
    let r := s.run files (.press p entity button :: (ops ++ [.move q]))
    (∀ a ∈ r.1, ∃ b, a = .ok b) ∧
      ∃ k l, s.canvas.grip g p = .ok (some k) ∧ r.2.canvas.grip g q = .ok (some l) ∧
        (l = k ↔ g.HeldBetween s.view.camera r.2.view.camera) ∧
        ((∀ op ∈ ops, op.KeepsHold g) → l = k) := by
  intro r
  have hpress : (s.canvas.press p entity button).Holds g := .press hscale hg
  let t : Session ℚ := { s with canvas := s.canvas.press p entity button }
  have hall : ∀ op ∈ ops ++ [.move q], op.follows = true := by
    intro op hop
    rcases List.mem_append.1 hop with hop | hop
    · exact hops op hop
    · rw [List.mem_singleton.1 hop]
      rfl
  obtain ⟨hoks, -⟩ := run_follow (s := t) hzoom hpress files hall
  obtain ⟨-, -, hholds, hheld⟩ := run_follow (s := t) hzoom hpress files hops
  obtain ⟨moved, d, hd, -, hgrip, hmove⟩ := hholds.move q
  have hr : r.2.canvas = d := by
    show ((t.run files (ops ++ [.move q])).2).canvas = d
    rw [run_append, run, step_move_of_ok hd]
    rfl
  have hhold := g.hold_eq_hold_iff hscale.ne' hholds.scale.ne'
  refine ⟨?_, _, _, Canvas.grip_of_gestureAt? hscale hg, hr ▸ hgrip, ?_, fun hk => ?_⟩
  · exact List.forall_mem_cons.2 ⟨⟨_, rfl⟩, hoks⟩
  · have hlast : r.2.view.camera = d.view.camera := congrArg (·.view.camera) hr
    rw [hlast]
    refine hhold.trans ?_
    exact ⟨fun h => h.trans hmove, fun h => h.trans hmove.symm⟩
  · exact hhold.2 (hheld hk)

end

/-- A box is dragged while the wheel turns where the pointer was pressed. -/
theorem grip_after_move_dragging :
    letI : Sunflower ℚ := ⟨fun _ => 1, fun _ => 0, fun _ => 0⟩
    let fresh : Session ℚ := .start .stock
    let loaded := (fresh.step ⟨[]⟩ (.load "model A \x7b\n\x7d" "a")).2
    let r := loaded.run ⟨[]⟩ [.press ⟨3, 4⟩ (some "A") 0, .move ⟨9, 9⟩, .wheel ⟨3, 4⟩ (-1),
      .move ⟨5, 6⟩]
    0 < loaded.settings.zoomMin ∧ 0 < loaded.view.camera.scale ∧
      ∃ g k, loaded.canvas.gestureAt? ⟨3, 4⟩ (some "A") 0 = some g ∧
        loaded.canvas.grip g ⟨3, 4⟩ = .ok (some k) ∧ r.2.canvas.grip g ⟨5, 6⟩ = .ok (some k) := by
  let _ : Sunflower ℚ := ⟨fun _ => 1, fun _ => 0, fun _ => 0⟩
  intro fresh loaded r
  have hzoom : 0 < loaded.settings.zoomMin :=
    Scalar.pos_of_literal Settings.inRange_stock.zoomMin
  have hloaded : Reachable .stock loaded := .step _ _ .start trivial
  have hscale := hloaded.scale_pos Settings.inRange_stock
  have hg : ∃ g, loaded.canvas.gestureAt? ⟨3, 4⟩ (some "A") 0 = some g ∧
      ∃ n origin, g = .drag n ⟨3, 4⟩ origin := ⟨_, rfl, _, _, rfl⟩
  obtain ⟨g, hg, n, origin, rfl⟩ := hg
  have hfollows : ∀ op ∈ [Op.move (⟨9, 9⟩ : Point ℚ), .wheel ⟨3, 4⟩ (-1)], op.follows = true := by
    decide
  obtain ⟨-, k, l, hk, hl, -, hkeeps⟩ := grip_after_move hzoom hscale hg ⟨[]⟩ hfollows ⟨5, 6⟩
  have hlk : l = k := hkeeps (by simp [Op.KeepsHold])
  exact ⟨hzoom, hscale, _, k, hg, hk, hlk ▸ hl⟩

/-- A turn of the wheel during a pan, or during a drag away from where it began, makes
the pointer lose what it held. -/
theorem grip_after_move_zoomed :
    letI : Sunflower ℚ := ⟨fun _ => 1, fun _ => 0, fun _ => 0⟩
    let fresh : Session ℚ := .start .stock
    let loaded := (fresh.step ⟨[]⟩ (.load "model A \x7b\n\x7d" "a")).2
    let pan : Gesture ℚ := .pan ⟨100, 100⟩ ⟨-1610, -1850⟩
    let panned := (loaded.run ⟨[]⟩
      [.press ⟨100, 100⟩ none 0, .wheel ⟨100, 100⟩ (-1), .move ⟨100, 100⟩]).2
    let drag : Gesture ℚ := .drag "A" ⟨100, 100⟩ ⟨2450, 2554⟩
    let dragged := (loaded.run ⟨[]⟩
      [.press ⟨100, 100⟩ (some "A") 0, .wheel ⟨0, 0⟩ (-1), .move ⟨100, 100⟩]).2
    Reachable .stock loaded ∧
      loaded.canvas.gestureAt? ⟨100, 100⟩ none 0 = some pan ∧
      panned.canvas.grip pan ⟨100, 100⟩ ≠ loaded.canvas.grip pan ⟨100, 100⟩ ∧
      loaded.canvas.gestureAt? ⟨100, 100⟩ (some "A") 0 = some drag ∧
      dragged.canvas.grip drag ⟨100, 100⟩ ≠ loaded.canvas.grip drag ⟨100, 100⟩ := by
  let _ : Sunflower ℚ := ⟨fun _ => 1, fun _ => 0, fun _ => 0⟩
  refine ⟨.step _ _ .start trivial, ?_⟩
  decide +kernel

end Session
end SchemaDiagram
