/-
# What activating a stub changes

Activating a stub reveals its target, and then the camera and the status change, whether
framing succeeds or not (`Session.exists_activate_eq`). The route does not go by these, so
that what is said of a reveal can be said of an activated stub.

Key theorems: `Session.exists_activate_eq`, `Session.Reachable.reveals_activate`.
-/
import SchemaDiagram.Proofs.Diagram.Reveal
import SchemaDiagram.Proofs.Session.Sound

namespace SchemaDiagram
namespace Session

/-- A stub that is activated is revealed; besides, only the camera and the status change. -/
theorem exists_activate_eq {α : Type} [Scalar α] (s : Session α) (t : Stub α) :
    ∃ camera status, (s.activate t).2 =
      { s with
        canvas := ⟨{ s.view.reveal t with camera := camera }, s.canvas.gesture⟩
        status := status } := by
  obtain ⟨f, -, hf⟩ | ⟨framed, u, message, hu, hf⟩ := activate_cases s t
  · exact ⟨(s.view.reveal t).camera, s.status, by rw [hf]; rfl⟩
  · rw [hf]
    obtain ⟨said, rfl⟩ | ⟨c, -, rfl⟩ := fit_cases hu
    · exact ⟨(s.view.reveal t).camera, ⟨message, false⟩, rfl⟩
    · exact ⟨c, ⟨message, false⟩, rfl⟩

/-- **What a click on a stub changes**, whatever was loaded and done before, and whether
framing succeeds or not: its target is selected, and of the boxes only that of the target
moves, beside the end of the stub. What was drawn is drawn as before, except that all stubs
to the target become edges. -/
theorem Reachable.reveals_activate [Sunflower ℚ] {settings : Settings ℚ} {s : Session ℚ}
    (h : Reachable settings s) {t : Stub ℚ} (ht : t ∈ s.route.stubs) :
    s.view.Reveals (s.activate t).2.view t ∧ s.route.Reveals (s.activate t).2.route t := by
  obtain ⟨camera, status, hactivate⟩ := exists_activate_eq s t
  obtain ⟨text, hm⟩ := h.sound.exists_schema_of_stub ht
  have hcovers : s.view.Covers (Schema.parse text).names := names_of_schema hm ▸ h.sound.covers
  rw [route, hm] at ht
  obtain ⟨b, hb⟩ := Keyed.exists_find?_of_mem_keys
    (hcovers.boxes _ (Schema.target_mem_of_mem_stubs ht))
  have hview : s.view.Reveals (s.view.reveal t) t :=
    View.reveals_reveal (hcovers.not_mem_of_stub ht) hb
  have hroute := Schema.reveals_route hcovers ht
  rw [hactivate, route, route, hm]
  exact ⟨{ hview with }, hroute⟩

/-- Two entities have a stub to the target, which points back to one of them, to itself and
to another hidden entity. -/
theorem Reachable.reveals_activate_shared :
    letI : Sunflower ℚ := ⟨fun _ => 1, fun _ => 0, fun _ => 0⟩
    let fresh : Session ℚ := .start .stock
    let source := "model A \x7b\n  t T\n  b B[]\n  z Z\n\x7d\nmodel B \x7b\n  a A\n  t T?\n\x7d\n" ++
      "model T \x7b\n  a A?\n  t T\n  z Z\n\x7d\nmodel Z \x7b\n\x7d"
    let loaded := (fresh.step ⟨[]⟩ (.load source "t")).2
    let first := (loaded.step ⟨[]⟩ (.select "A")).2
    let s := (first.step ⟨[]⟩ (.select "B")).2
    let t : Stub ℚ := ⟨"A", "t", "T", 0, 2750, 5089 / 2, 2888, 5089 / 2⟩
    Reachable .stock s ∧ t ∈ s.route.stubs ∧
      (s.view.Reveals (s.activate t).2.view t ∧ s.route.Reveals (s.activate t).2.route t) ∧
      s.route.edges.map Edge.ends = [("A", "B")] ∧
      s.route.stubs.map (fun u => (u.declared, u.slot)) =
        [(("A", "t", "T"), 0), (("A", "z", "Z"), 1), (("B", "t", "T"), 0)] ∧
      (s.activate t).2.route.edges.map Edge.ends =
        [("A", "T"), ("A", "B"), ("B", "T"), ("T", "T")] ∧
      (s.activate t).2.route.stubs.map (fun u => (u.declared, u.slot)) =
        [(("A", "z", "Z"), 0), (("T", "z", "Z"), 0)] := by
  let _ : Sunflower ℚ := ⟨fun _ => 1, fun _ => 0, fun _ => 0⟩
  intro fresh source loaded first s t
  have hloaded : Reachable .stock loaded := .step _ _ .start trivial
  have hfirst : Reachable .stock first := hloaded.step _ _ trivial
  have hreach : Reachable .stock s := hfirst.step _ _ trivial
  have hroutes : t ∈ s.route.stubs ∧ s.route.edges.map Edge.ends = [("A", "B")] ∧
      s.route.stubs.map (fun u => (u.declared, u.slot)) =
        [(("A", "t", "T"), 0), (("A", "z", "Z"), 1), (("B", "t", "T"), 0)] ∧
      (s.activate t).2.route.edges.map Edge.ends =
        [("A", "T"), ("A", "B"), ("B", "T"), ("T", "T")] ∧
      (s.activate t).2.route.stubs.map (fun u => (u.declared, u.slot)) =
        [(("A", "z", "Z"), 0), (("T", "z", "Z"), 0)] := by
    decide +kernel
  exact ⟨hreach, hroutes.1, reveals_activate hreach hroutes.1, hroutes.2⟩

end Session
end SchemaDiagram
