/-
# What operations lead to

The operations of a session that may fail or that do several things, by what they lead
to. An invariant of sessions is shown from these, operation by operation.

Key theorems: `Session.of_changed`, `Session.of_guarded`,
`Session.changed_eq_error_iff`, `Session.fit_cases`, `Session.move_cases`,
`Session.wheel_cases`, `Session.revealNeighbors_cases`, `Session.activate_cases`,
`Session.load_cases`, `Session.loadFile_cases`, `Session.loadDemo_cases`.
-/
import SchemaDiagram.Proofs.Outcome
import SchemaDiagram.Session.Step

namespace SchemaDiagram
namespace Session

/-! ### Operations that may fail -/

section

variable {α β : Type} {s t : Session α} {n : String} {f : Fault}

/-- What holds of a session and of each that an operation may lead to holds after it. -/
theorem of_changed {P : Session α → Prop} (h : P s) (answer : β → Answer α)
    {r : Except Fault (β × Session α)} (hr : ∀ b t, r = .ok (b, t) → P t) :
    P (s.changed answer r).2 := by
  cases r with
  | error f => exact h
  | ok p => exact hr p.1 p.2 rfl

theorem guard_eq_ok (h : s.guard n = .ok t) : t = s ∧ s.knows n = true := by
  unfold guard at h
  split at h
  · next hk => exact ⟨(Except.ok.inj h).symm, hk⟩
  · cases h

/-- What holds of a session, and after a change if the entity is known, holds after the
guarded change. -/
theorem of_guarded {P : Session α → Prop} (h : P s) (answer : β → Answer α)
    {g : Session α → β × Session α} (hg : s.knows n = true → P (g s).2) :
    P (s.changed answer ((s.guard n).map g)).2 := by
  refine of_changed h answer fun b t ht => ?_
  obtain ⟨u, hu, hut⟩ := map_eq_ok_iff.1 ht
  obtain ⟨rfl, hk⟩ := guard_eq_ok hu
  have hchanged := hg hk
  rw [hut] at hchanged
  exact hchanged

theorem changed_eq_error_iff {answer : β → Answer α} {r : Except Fault (β × Session α)} :
    (s.changed answer r).1 = .error f ↔ r = .error f := by
  cases r with
  | error g =>
    exact ⟨fun h => congrArg _ (Except.error.inj h), fun h => congrArg _ (Except.error.inj h)⟩
  | ok p => exact ⟨fun h => (by cases h), fun h => (by cases h)⟩

theorem eq_unknown_of_guarded {answer : β → Answer α} {g : Session α → β × Session α}
    (h : (s.changed answer ((s.guard n).map g)).1 = .error f) : f = .unknownEntity n := by
  rw [changed_eq_error_iff, map_eq_error_iff, guard] at h
  split at h
  · cases h
  · exact (Except.error.inj h).symm

theorem eq_unknown_of_neighbors (h : s.neighbors n = .error f) : f = .unknownEntity n := by
  unfold neighbors at h
  split at h
  · exact (Except.error.inj h).symm
  · unfold Schema.neighbors at h
    split at h
    · cases h
    · exact (Except.error.inj h).symm

/-- Revealing neighbours selects them, and says so if there are any. -/
theorem revealNeighbors_cases {ns : List String} (h : s.revealNeighbors n = .ok (ns, t)) :
    s.hiddenNeighbors n = .ok ns ∧ (t = s.setView (ns.foldl View.select s.view) ∨
      ∃ message, t = (s.setView (ns.foldl View.select s.view)).say message false) := by
  obtain ⟨hidden, hh, hht⟩ := map_eq_ok_iff.1 h
  obtain ⟨rfl, rfl⟩ := Prod.mk.inj hht
  refine ⟨hh, ?_⟩
  split
  · exact .inl rfl
  · exact .inr ⟨_, rfl⟩

end

/-- A known entity is selected. -/
theorem step_select {α : Type} [Scalar α] [Sunflower α] {s : Session α} {n : String}
    (hn : s.knows n = true) (files : Files) :
    (s.step files (.select n)).2 = s.setView (s.view.select n) := by
  rw [step, guard, if_pos hn]
  rfl

/-! ### The camera -/

section

variable {α : Type} [Scalar α] {s t : Session α}

/-- Framing says that there is nothing to frame or fits the camera. -/
theorem fit_cases {framed : Bool} (h : s.fit = .ok (framed, t)) :
    (∃ message, t = s.say message false) ∨
      ∃ c, Camera.fit s.settings.cameraRule s.shownBoxes s.window = .ok (some c) ∧
        t = { s with canvas := s.canvas.setCamera c } := by
  obtain ⟨c, hc, hct⟩ := map_eq_ok_iff.1 h
  cases c with
  | none => exact .inl ⟨_, (Prod.mk.inj hct).2.symm⟩
  | some c => exact .inr ⟨c, hc, (Prod.mk.inj hct).2.symm⟩

/-- A move that moves a box answers with the route after it. -/
theorem move_cases {p : Point α} {r : Option (Route α)} (h : s.move p = .ok (r, t)) :
    ∃ moved c, s.canvas.move p = .ok (moved, c) ∧ t = { s with canvas := c } ∧
      r = moved.map fun _ => t.route := by
  obtain ⟨⟨moved, c⟩, hc, hct⟩ := map_eq_ok_iff.1 h
  obtain ⟨rfl, rfl⟩ := Prod.mk.inj hct
  exact ⟨moved, c, hc, rfl, rfl⟩

theorem wheel_cases {p : Point α} {turn x : α} (h : s.wheel p turn = .ok (x, t)) :
    ∃ c, s.view.camera.wheel s.settings.cameraRule p turn = .ok c ∧
      t = { s with canvas := s.canvas.setCamera c } := by
  obtain ⟨c, hc, hct⟩ := map_eq_ok_iff.1 h
  exact ⟨c, hc, (Prod.mk.inj hct).2.symm⟩

/-- The target of a stub is revealed, and then framed if that does not fail. -/
theorem activate_cases (s : Session α) (stub : Stub α) :
    (∃ f, (s.setView (s.view.reveal stub)).fit = .error f ∧
      s.activate stub = (.error f, s.setView (s.view.reveal stub))) ∨
      ∃ framed u message, (s.setView (s.view.reveal stub)).fit = .ok (framed, u) ∧
        s.activate stub = (.ok (), u.say message false) := by
  simp only [activate]
  cases hfit : (s.setView (s.view.reveal stub)).fit with
  | error f => exact .inl ⟨f, rfl, rfl⟩
  | ok p => exact .inr ⟨p.1, p.2, _, rfl, rfl⟩

end

/-! ### Loading -/

section

variable {α : Type} [Scalar α] [Sunflower α]

/-- A load says what went wrong or puts the schema in place. -/
theorem load_cases (s : Session α) (text label : String) :
    (∃ message, s.load text label = (false, s.say message true)) ∨
      ∃ m, s.reader text = .ok m ∧ s.load text label = (true, s.install m label) := by
  unfold load
  cases hread : s.reader text with
  | error message => exact .inl ⟨_, rfl⟩
  | ok m => exact .inr ⟨m, rfl, rfl⟩

theorem loadFile_cases (files : Files) (s : Session α) (path : String) :
    (∃ f, s.loadFile files path = (.error f, s) ∧ f ≠ .divisionByZero) ∨
      (∃ message, s.loadFile files path = (.ok false, s.say message true)) ∨
        ∃ text label, s.loadFile files path =
          (.ok (s.load text label).1, (s.load text label).2) := by
  simp only [loadFile]
  split
  · exact .inl ⟨_, rfl, by decide⟩
  · exact .inl ⟨_, rfl, by decide⟩
  · exact .inr (.inl ⟨_, rfl⟩)
  · exact .inr (.inr ⟨_, _, rfl⟩)

/-- The demonstration schema is loaded and selected, and then framed if neither fails. -/
theorem loadDemo_cases (s : Session α) :
    (∃ t, s.load demoSchema "demo schema" = (false, t) ∧ s.loadDemo = (.ok false, t)) ∨
      ∃ t, s.load demoSchema "demo schema" = (true, t) ∧
        ((∃ f, t.selectAll.fit = .error f ∧ s.loadDemo = (.error f, t.selectAll)) ∨
          ∃ framed u, t.selectAll.fit = .ok (framed, u) ∧ s.loadDemo = (.ok true, u)) := by
  unfold loadDemo
  cases hload : s.load demoSchema "demo schema" with
  | mk loaded t =>
    cases loaded with
    | false => exact .inl ⟨t, rfl, rfl⟩
    | true =>
      refine .inr ⟨t, rfl, ?_⟩
      dsimp only
      cases hfit : t.selectAll.fit with
      | error f => exact .inl ⟨f, rfl, rfl⟩
      | ok p => exact .inr ⟨p.1, p.2, rfl, rfl⟩

end

end Session
end SchemaDiagram
