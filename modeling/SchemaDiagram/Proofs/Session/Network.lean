/-
# The drawn networks of sessions

The scene of a session can be drawn: names are words, so they have no colons, edges and
stubs start at selected entities, and stubs of one key at entities of one name. So the
network that a session draws mirrors its scene, also when a name is declared twice or an
entity points to itself, and no identifier of a stub is taken for an entity.

Key theorems: `drawable_scene`, `Session.Reachable.network_mirrors`.
-/
import SchemaDiagram.Proofs.Network.Mirror
import SchemaDiagram.Proofs.Session.Scene

namespace SchemaDiagram

variable {α : Type} [Scalar α]

theorem drawable_scene {schema : Option Schema} {v : View α}
    (hboxes : ∀ n ∈ (shownEntities schema v).map (·.name), n ∈ v.boxes.keys)
    (hcolons : ∀ n ∈ (shownEntities schema v).map (·.name), ':' ∉ n.toList) :
    (scene schema v).Drawable where
  colons := by
    rw [names_nodes_scene hboxes]
    exact hcolons
  ends_mem := by
    rw [names_nodes_scene hboxes]
    exact (draws_route hboxes hcolons).ends_mem
  nodup_ends := by
    -- the source of an edge comes first, so its ends have an order after all
    have hdraws := draws_route hboxes hcolons
    refine (nodup_map_iff_nodup_map fun c hc d hd => ⟨fun h => ?_, fun h => ?_⟩).2 hdraws.nodup_ends
    · rcases Sym2.eq_iff.1 h with ⟨hsource, htarget⟩ | ⟨hsource, htarget⟩
      · exact Prod.ext hsource htarget
      · have hc' := hdraws.source_le c hc
        rw [hsource, htarget] at hc'
        have hsame := String.le_antisymm hc' (hdraws.source_le d hd)
        exact Prod.ext (hsource.trans hsame) (htarget.trans hsame.symm)
    · obtain ⟨hsource, htarget⟩ := Prod.mk.inj h
      rw [hsource, htarget]
  source_mem t ht := by
    rw [names_nodes_scene hboxes]
    exact (origin_of_mem_stubs hboxes ht).1
  source_eq t ht u hu h := by
    obtain ⟨hsource, m, hm⟩ := origin_of_mem_stubs hboxes ht
    obtain ⟨htarget, n, hn⟩ := origin_of_mem_stubs hboxes hu
    exact (Prod.mk.inj ((Stub.key_eq_key_iff (hcolons _ hsource) (hcolons _ htarget) hm hn).1 h)).1

namespace Session

variable {settings : Settings α} {s : Session α}

/-- **The network mirrors the scene**, whatever was loaded and done before: no call that
draws it fails, there is one box for each selected name, every edge is the one link
between its ends, each key of a stub has one label and one line to it, and no label is
known by the name of an entity. -/
theorem Reachable.network_mirrors [Sunflower α] (h : Reachable settings s) :
    Network.empty.accepts s.scene.1.draws = true ∧
      (Network.empty.drawAll s.scene.1.draws).Mirrors s.scene.1 s.view.selected.names ∧
      ∀ t ∈ s.scene.1.stubs, t.ghost ∉ s.names := by
  have hdrawable : s.scene.1.Drawable :=
    drawable_scene h.sound.boxes_shown h.sound.colons_shown
  have hnames : s.scene.1.nodes.map (·.name) = s.shown.map (·.name) :=
    names_nodes_scene h.sound.boxes_shown
  refine ⟨hdrawable.accepts_draws, { hdrawable.mirrors with mem_boxes := fun n => ?_ }, ?_⟩
  · rw [hdrawable.mirrors.mem_boxes, hnames, h.sound.mem_names_shown_iff]
  · exact fun t _ ht => h.sound.colon_not_mem_of_mem_names ht t.colon_mem_ghost

/-- A name declared twice, a relation of an entity to itself and a hidden target. -/
theorem Reachable.network_mirrors_repeated_name :
    letI : Sunflower ℚ := ⟨fun _ => 1, fun _ => 0, fun _ => 0⟩
    let fresh : Session ℚ := .start .stock
    let source := "model A \x7b\n  a A\n  b B\n\x7d\nmodel A \x7b\n  b B\n\x7d\nmodel B \x7b\n\x7d"
    let loaded := (fresh.step ⟨[]⟩ (.load source "a")).2
    let selected := (loaded.step ⟨[]⟩ (.select "A")).2
    Reachable .stock selected ∧ selected.scene.1.nodes.map (·.name) = ["A", "A"] ∧
      selected.scene.1.edges.map Edge.key = ["A::A"] ∧
      selected.scene.1.stubs.map Stub.key = ["A::b::0", "A::b::0"] ∧
      Network.empty.accepts selected.scene.1.draws = true ∧
      (Network.empty.drawAll selected.scene.1.draws).Mirrors selected.scene.1 ["A"] := by
  let _ : Sunflower ℚ := ⟨fun _ => 1, fun _ => 0, fun _ => 0⟩
  intro fresh source loaded selected
  have hloaded : Reachable .stock loaded := .step _ _ .start trivial
  have hreach : Reachable .stock selected := hloaded.step _ _ trivial
  have hselected : selected.view.selected.names = ["A"] := by decide +kernel
  obtain ⟨haccepts, hmirrors, -⟩ := network_mirrors hreach
  rw [hselected] at hmirrors
  exact ⟨hreach, by decide +kernel, by decide +kernel, by decide +kernel, haccepts, hmirrors⟩

end Session
end SchemaDiagram
