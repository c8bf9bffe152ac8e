/-
# What sessions draw

Every selected entity of a session has a box, and its name is a word. So what is
known of scenes of such entities holds of the scene of every session: edges never
share a key, and with every name declared once no two nodes or stubs do.

Key theorems: `Session.Sound.mem_names_shown_iff`, `Session.Sound.boxes_shown`,
`Session.Sound.colons_shown`, `Session.Reachable.scene_keys`.
-/
import SchemaDiagram.Proofs.Diagram.Keys
import SchemaDiagram.Proofs.Session.Sound

namespace SchemaDiagram
namespace Session

variable {α : Type} [Scalar α] {settings : Settings α} {s : Session α}

/-- What is selected is shown. -/
theorem Sound.mem_names_shown_iff (h : s.Sound settings) {n : String} :
    n ∈ s.shown.map (·.name) ↔ n ∈ s.view.selected.names := by
  unfold shown
  cases hm : s.schema with
  | none =>
    have hnames : s.names = [] := by rw [names, hm]
    refine ⟨fun hn => absurd hn List.not_mem_nil, fun hn => ?_⟩
    exact absurd (hnames ▸ h.canvas.view.selected n hn) List.not_mem_nil
  | some m =>
    refine Schema.mem_names_shown.trans (and_iff_right_of_imp fun hn => ?_)
    exact names_of_schema hm ▸ h.canvas.view.selected n hn

theorem Sound.colon_not_mem_of_mem_names (h : s.Sound settings) {n : String} (hn : n ∈ s.names) :
    ':' ∉ n.toList := by
  cases hm : s.schema with
  | none =>
    rw [names, hm] at hn
    cases hn
  | some m =>
    obtain ⟨text, rfl⟩ := h.schema m hm
    rw [names_of_schema hm] at hn
    exact Schema.colon_not_mem_of_mem_names hn

theorem Sound.boxes_shown (h : s.Sound settings) :
    ∀ n ∈ s.shown.map (·.name), n ∈ s.view.boxes.keys :=
  fun n hn => (h.canvas.view.boxes n).2 (h.canvas.view.selected n (h.mem_names_shown_iff.1 hn))

theorem Sound.colons_shown (h : s.Sound settings) :
    ∀ n ∈ s.shown.map (·.name), ':' ∉ n.toList :=
  fun n hn =>
    h.colon_not_mem_of_mem_names (h.canvas.view.selected n (h.mem_names_shown_iff.1 hn))

/-- **The keys of a scene**, whatever was loaded and done before: edges have distinct
keys. Nodes have distinct names exactly if the selected names are declared once each,
and then stubs have distinct keys, also those of fields with one name. -/
theorem Reachable.scene_keys [Sunflower α] (h : Reachable settings s) :
    s.scene.1.Keys s.shown ∧
      ((s.shown.map (·.name)).Nodup →
        (s.scene.1.nodes.map (·.name)).Nodup ∧ (s.scene.1.edges.map Edge.key).Nodup ∧
          (s.scene.1.stubs.map Stub.key).Nodup) := by
  have hkeys : s.scene.1.Keys s.shown :=
    keys_scene h.sound.boxes_shown h.sound.colons_shown
  exact ⟨hkeys, fun hnames => ⟨hkeys.nodes_iff.2 hnames, hkeys.edges, hkeys.stubs hnames⟩⟩

/-- Two fields of one name lead to a hidden entity, and another one to a shown one. -/
theorem Reachable.scene_keys_repeated_field :
    letI : Sunflower ℚ := ⟨fun _ => 1, fun _ => 0, fun _ => 0⟩
    let fresh : Session ℚ := .start .stock
    let loaded := (fresh.step ⟨[]⟩
      (.load "model A \x7b\n  b B\n  b B?\n  a A\n\x7d\nmodel B \x7b\n\x7d" "a")).2
    let selected := (loaded.step ⟨[]⟩ (.select "A")).2
    Reachable .stock selected ∧ (selected.shown.map (·.name)).Nodup ∧
      (selected.scene.1.stubs.map Stub.key).Nodup ∧
      selected.scene.1.stubs.map Stub.key = ["A::b::0", "A::b::1"] := by
  let _ : Sunflower ℚ := ⟨fun _ => 1, fun _ => 0, fun _ => 0⟩
  intro fresh loaded selected
  have hloaded : Reachable .stock loaded := .step _ _ .start trivial
  have hreach : Reachable .stock selected := hloaded.step _ _ trivial
  have hnames : (selected.shown.map (·.name)).Nodup := by decide +kernel
  exact ⟨hreach, hnames, (scene_keys hreach).2 hnames |>.2.2, by decide +kernel⟩

/-- A name declared twice gives two nodes of one name and two stubs of one key. -/
theorem Reachable.scene_keys_repeated_name :
    letI : Sunflower ℚ := ⟨fun _ => 1, fun _ => 0, fun _ => 0⟩
    let fresh : Session ℚ := .start .stock
    let loaded := (fresh.step ⟨[]⟩
      (.load "model A \x7b\n  b B\n\x7d\nmodel A \x7b\n  b B\n\x7d\nmodel B \x7b\n\x7d" "a")).2
    let selected := (loaded.step ⟨[]⟩ (.select "A")).2
    Reachable .stock selected ∧ selected.scene.1.nodes.map (·.name) = ["A", "A"] ∧
      selected.scene.1.stubs.map Stub.key = ["A::b::0", "A::b::0"] := by
  let _ : Sunflower ℚ := ⟨fun _ => 1, fun _ => 0, fun _ => 0⟩
  intro fresh loaded selected
  have hloaded : Reachable .stock loaded := .step _ _ .start trivial
  exact ⟨hloaded.step _ _ trivial, by decide +kernel, by decide +kernel⟩

end Session
end SchemaDiagram
