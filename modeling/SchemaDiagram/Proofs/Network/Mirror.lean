/-
# What a drawn scene shows

The calls that draw a scene put its nodes first, then its edges, then the stubs, each of
them a node for its target and a line to it. If edges and stubs start and end at nodes, no
call fails. Identifiers of stubs have a colon and names of entities have none, so boxes,
edges and stubs cannot stand in for each other: a name declared twice gives one box, no
edge is left out, and stubs share their node and their line only with stubs of one key.

Key definitions: `Stub.ghostNode`, `Stub.line`, `Network.boxes`, `Network.labels`,
`Scene.Drawable`, `Network.Mirrors`.
Key theorems: `Scene.Drawable.accepts_draws`, `Scene.Drawable.nodes_draws`,
`Scene.Drawable.links_draws`, `Scene.Drawable.mirrors`.
-/
import SchemaDiagram.Network.Drawing
import SchemaDiagram.Proofs.Network.Drawn

namespace SchemaDiagram

theorem filter_eq_singleton {β : Type} [DecidableEq β] {l : List β} {p : β → Bool} {x : β}
    (hl : l.Nodup) (hx : x ∈ l) (h : ∀ y ∈ l, p y = true ↔ y = x) : l.filter p = [x] := by
  have hp : ∀ y ∈ l, p y = (y == x) := fun y hy => Bool.eq_iff_iff.2 (by simp [h y hy])
  rw [List.filter_congr hp, List.filter_beq, List.count_eq_one_of_mem hl hx, List.replicate_one]

variable {α : Type}

/-- A box around a label. -/
def NodeLook.isBox : NodeLook α → Bool
  | .box _ => true
  | .label => false

def Network.boxes (g : Network α) : List (NetworkNode α) :=
  g.nodes.filter (·.look.isBox)

def Network.labels (g : Network α) : List (NetworkNode α) :=
  g.nodes.filter (!·.look.isBox)

/-! ### Nodes and lines of stubs -/

namespace Stub

theorem ghost_eq_ghost_iff {t u : Stub α} : t.ghost = u.ghost ↔ t.key = u.key := by
  refine ⟨fun h => ?_, fun h => by rw [ghost, ghost, h]⟩
  have hlist := congrArg String.toList h
  rw [ghost, ghost, String.toList_append, String.toList_append] at hlist
  exact String.toList_injective (List.append_cancel_left hlist)

theorem colon_mem_ghost (t : Stub α) : ':' ∈ t.ghost.toList := by
  rw [ghost, String.toList_append]
  exact List.mem_append_left _ (by decide)

/-- The line from the entity of a stub to the node for its target. -/
def line (t : Stub α) : NetworkLink := ⟨t.source, t.ghost, .dashes⟩

variable [Scalar α]

/-- The node for the target of a stub. -/
def ghostNode (t : Stub α) : NetworkNode α :=
  ⟨t.ghost, t.label, t.source ++ "." ++ t.field ++ " → " ++ t.target, t.linkPosition.x + 40.0,
    t.linkPosition.y + 10.0, .label⟩

theorem draws_eq (t : Stub α) : t.draws = [.node t.ghostNode] ++ [.link t.line] := rfl

theorem node_calls (t : Stub α) : t.draws.filterMap Draw.node? = [t.ghostNode] := rfl

theorem link_calls (t : Stub α) : t.draws.filterMap Draw.link? = [t.line] := rfl

end Stub

/-! ### The calls of a scene -/

/-- Edges and stubs start and end at nodes, which have names without colons; each edge has
ends of its own, and stubs of one key start at one node. -/
structure Scene.Drawable (σ : Scene α) : Prop where
  colons : ∀ n ∈ σ.nodes.map (·.name), ':' ∉ n.toList
  ends_mem : ∀ e ∈ σ.edges,
    e.source ∈ σ.nodes.map (·.name) ∧ e.target ∈ σ.nodes.map (·.name)
  nodup_ends : (σ.edges.map fun e => s(e.source, e.target)).Nodup
  source_mem : ∀ t ∈ σ.stubs, t.source ∈ σ.nodes.map (·.name)
  source_eq : ∀ t ∈ σ.stubs, ∀ u ∈ σ.stubs, t.key = u.key → t.source = u.source

/-- The network shows a scene: a box for each of some names, each edge as the one link
between its ends, and for each key of a stub one label and one line to it. -/
structure Network.Mirrors [Scalar α] (g : Network α) (σ : Scene α) (names : List String) :
    Prop where
  nodup_boxes : (g.boxes.map (·.id)).Nodup
  mem_boxes : ∀ n, n ∈ g.boxes.map (·.id) ↔ n ∈ names
  edge_once : ∀ e ∈ σ.edges,
    g.links.filter (fun l => l.ends = s(e.source, e.target)) = [e.network]
  labels_eq : g.labels.map (·.id) = (σ.stubs.map Stub.key).eraseDups.map ("stub::" ++ ·)
  ghost_once : ∀ t ∈ σ.stubs, (g.nodes.map (·.id)).count t.ghost = 1
  line_once : ∀ t ∈ σ.stubs, g.links.filter (fun l => t.ghost ∈ l.ends) = [t.line]
  boxes_sub : ∀ n ∈ g.boxes, ∃ m ∈ σ.nodes, n = m.network
  /-- Nothing else is drawn. -/
  links_sub : ∀ l ∈ g.links, (∃ e ∈ σ.edges, l = e.network) ∨ ∃ t ∈ σ.stubs, l = t.line

namespace Scene

variable [Scalar α] {σ : Scene α}

theorem node_calls (σ : Scene α) :
    σ.draws.filterMap Draw.node? = σ.nodes.map Node.network ++ σ.stubs.map Stub.ghostNode := by
  simp [draws, List.filterMap_flatMap, Stub.node_calls, Function.comp_def, Draw.node?,
    List.map_eq_flatMap (l := σ.stubs)]

theorem link_calls (σ : Scene α) :
    σ.draws.filterMap Draw.link? = σ.edges.map Edge.network ++ σ.stubs.map Stub.line := by
  simp [draws, List.filterMap_flatMap, Stub.link_calls, Function.comp_def, Draw.link?,
    List.map_eq_flatMap (l := σ.stubs)]

namespace Drawable

omit [Scalar α] in
/-- The identifier of a stub is no name of a node. -/
theorem ghost_not_mem (h : σ.Drawable) (t : Stub α) : t.ghost ∉ σ.nodes.map (·.name) :=
  fun hmem => h.colons _ hmem t.colon_mem_ghost

/-- Whatever a call joins was added before. -/
theorem accepts_draws (h : σ.Drawable) : Network.empty.accepts σ.draws = true := by
  have hnodes : (Network.empty (α := α)).accepts (σ.nodes.map fun n => .node n.network) = true := by
    rw [List.map_eq_flatMap]
    exact Network.accepts_flatMap fun _ _ _ _ => Network.accepts_node _
  have hnames : ∀ n ∈ σ.nodes.map (·.name),
      (Network.empty.drawAll (σ.nodes.map fun n => .node n.network)).hasNode n = true := by
    intro n hn
    refine Network.hasNode_drawAll_iff.2 (.inr ?_)
    simpa [Draw.node?, Node.network] using hn
  rw [draws, List.append_assoc, Network.accepts_append, List.map_eq_flatMap (l := σ.edges),
    Network.accepts_append]
  refine ⟨hnodes, ?_, ?_⟩
  · refine Network.accepts_flatMap fun e he g hg => ?_
    obtain ⟨hsource, htarget⟩ := h.ends_mem e he
    exact Network.accepts_link (hg _ (hnames _ hsource)) (hg _ (hnames _ htarget))
  · refine Network.accepts_flatMap fun t ht g hg => ?_
    rw [Stub.draws_eq, Network.accepts_append]
    have hsource := hg _ (Network.hasNode_drawAll _ (hnames _ (h.source_mem t ht)))
    refine ⟨Network.accepts_node _, Network.accepts_link (Network.hasNode_drawAll _ hsource) ?_⟩
    exact Network.hasNode_drawAll_iff.2 (.inr (by simp [Draw.node?, Stub.ghostNode, Stub.line]))

/-- No stub takes the place of a node of an entity. -/
theorem nodes_draws (h : σ.Drawable) :
    (Network.empty.drawAll σ.draws).nodes =
      firsts (·.id) (σ.nodes.map Node.network) ++ firsts (·.id) (σ.stubs.map Stub.ghostNode) := by
  rw [Network.nodes_drawAll h.accepts_draws, node_calls]
  refine firsts_append fun n hn hmem => ?_
  obtain ⟨t, -, rfl⟩ := List.mem_map.1 hn
  rw [List.map_map] at hmem
  exact h.ghost_not_mem t hmem

omit [Scalar α] in
/-- A line has the ends of another line only if it is that line. -/
theorem line_eq_of_ends (h : σ.Drawable) {t u : Stub α} (ht : t ∈ σ.stubs)
    (hends : t.line.ends = u.line.ends) : t.line = u.line := by
  have hcases : (t.source = u.source ∧ t.ghost = u.ghost) ∨
      (t.source = u.ghost ∧ t.ghost = u.source) := Sym2.eq_iff.1 hends
  rcases hcases with ⟨hsource, hghost⟩ | ⟨hsource, -⟩
  · rw [Stub.line, Stub.line, hsource, hghost]
  · exact absurd (hsource ▸ h.source_mem t ht) (h.ghost_not_mem u)

omit [Scalar α] in
/-- No edge has the ends of a line. -/
theorem ends_line_not_mem (h : σ.Drawable) (t : Stub α) :
    t.line.ends ∉ (σ.edges.map Edge.network).map NetworkLink.ends := by
  intro hmem
  obtain ⟨l, hl, hends⟩ := List.mem_map.1 hmem
  obtain ⟨e, he, rfl⟩ := List.mem_map.1 hl
  obtain ⟨hsource, htarget⟩ := h.ends_mem e he
  have hcases : (e.source = t.source ∧ e.target = t.ghost) ∨
      (e.source = t.ghost ∧ e.target = t.source) := Sym2.eq_iff.1 hends
  rcases hcases with ⟨-, hghost⟩ | ⟨hghost, -⟩
  · exact h.ghost_not_mem t (hghost ▸ htarget)
  · exact h.ghost_not_mem t (hghost ▸ hsource)

/-- Every edge is drawn, and every line once. -/
theorem links_draws (h : σ.Drawable) :
    (Network.empty.drawAll σ.draws).links =
      σ.edges.map Edge.network ++ (σ.stubs.map Stub.line).eraseDups := by
  have hedges : firsts NetworkLink.ends (σ.edges.map Edge.network) = σ.edges.map Edge.network := by
    refine firsts_eq_self ?_
    rw [List.map_map]
    exact h.nodup_ends
  have hlines : firsts NetworkLink.ends (σ.stubs.map Stub.line) =
      (σ.stubs.map Stub.line).eraseDups := by
    refine firsts_eq_eraseDups fun l hl m hm hends => ?_
    obtain ⟨t, ht, rfl⟩ := List.mem_map.1 hl
    obtain ⟨u, -, rfl⟩ := List.mem_map.1 hm
    exact h.line_eq_of_ends ht hends
  have hapart : ∀ l ∈ σ.stubs.map Stub.line,
      l.ends ∉ (σ.edges.map Edge.network).map NetworkLink.ends := by
    intro l hl
    obtain ⟨t, -, rfl⟩ := List.mem_map.1 hl
    exact h.ends_line_not_mem t
  rw [Network.links_drawAll h.accepts_draws, link_calls, firsts_append hapart, hedges, hlines]

/-- The boxes are the nodes of the entities. -/
theorem boxes_draws (h : σ.Drawable) :
    (Network.empty.drawAll σ.draws).boxes = firsts (·.id) (σ.nodes.map Node.network) := by
  rw [Network.boxes, h.nodes_draws, List.filter_append, List.filter_eq_self.2 fun n hn => ?_,
    List.filter_eq_nil_iff.2 fun n hn => ?_, List.append_nil]
  · obtain ⟨t, -, rfl⟩ := List.mem_map.1 ((firsts_sublist _).subset hn)
    exact Bool.false_ne_true
  · obtain ⟨m, -, rfl⟩ := List.mem_map.1 ((firsts_sublist _).subset hn)
    rfl

/-- The other nodes are those of the stubs. -/
theorem labels_draws (h : σ.Drawable) :
    (Network.empty.drawAll σ.draws).labels = firsts (·.id) (σ.stubs.map Stub.ghostNode) := by
  rw [Network.labels, h.nodes_draws, List.filter_append, List.filter_eq_nil_iff.2 fun n hn => ?_,
    List.filter_eq_self.2 fun n hn => ?_, List.nil_append]
  · obtain ⟨t, -, rfl⟩ := List.mem_map.1 ((firsts_sublist _).subset hn)
    rfl
  · obtain ⟨m, -, rfl⟩ := List.mem_map.1 ((firsts_sublist _).subset hn)
    exact Bool.false_ne_true

/-- There is one identifier for each key of a stub. -/
theorem ids_labels_draws (h : σ.Drawable) :
    (Network.empty.drawAll σ.draws).labels.map (·.id) =
      (σ.stubs.map Stub.key).eraseDups.map ("stub::" ++ ·) := by
  have hghosts : (σ.stubs.map Stub.ghostNode).map (·.id) =
      (σ.stubs.map Stub.key).map ("stub::" ++ ·) := by
    rw [List.map_map, List.map_map]
    rfl
  rw [h.labels_draws, map_firsts, hghosts]
  refine eraseDups_map fun a ha b hb hab => ?_
  obtain ⟨t, -, rfl⟩ := List.mem_map.1 ha
  obtain ⟨u, -, rfl⟩ := List.mem_map.1 hb
  exact Stub.ghost_eq_ghost_iff.1 hab

theorem mem_links_draws (h : σ.Drawable) {l : NetworkLink} :
    l ∈ (Network.empty.drawAll σ.draws).links ↔
      (∃ e ∈ σ.edges, l = e.network) ∨ ∃ t ∈ σ.stubs, l = t.line := by
  rw [h.links_draws, List.mem_append, List.mem_eraseDups, List.mem_map, List.mem_map]
  simp only [eq_comm]

omit [Scalar α] in
/-- What ends at the node of a stub is the line of the stub. -/
theorem line_of_ghost_mem (h : σ.Drawable) {t : Stub α} (ht : t ∈ σ.stubs) {l : NetworkLink}
    (hl : (∃ e ∈ σ.edges, l = e.network) ∨ ∃ u ∈ σ.stubs, l = u.line) (hmem : t.ghost ∈ l.ends) :
    l = t.line := by
  rcases hl with ⟨e, he, rfl⟩ | ⟨u, hu, rfl⟩
  · obtain ⟨hsource, htarget⟩ := h.ends_mem e he
    rcases Sym2.mem_iff.1 hmem with hghost | hghost
    · exact absurd (hghost ▸ hsource) (h.ghost_not_mem t)
    · exact absurd (hghost ▸ htarget) (h.ghost_not_mem t)
  · rcases Sym2.mem_iff.1 hmem with hghost | hghost
    · exact absurd (hghost ▸ h.source_mem u hu) (h.ghost_not_mem t)
    · have hghosts : t.ghost = u.ghost := hghost
      have hsource := h.source_eq t ht u hu (Stub.ghost_eq_ghost_iff.1 hghosts)
      rw [Stub.line, Stub.line, hsource, hghosts]

/-- **A drawn scene mirrors the scene.** -/
theorem mirrors (h : σ.Drawable) :
    (Network.empty.drawAll σ.draws).Mirrors σ (σ.nodes.map (·.name)) := by
  have hids : ((Network.empty.drawAll σ.draws).nodes.map (·.id)).Nodup := by
    rw [Network.nodes_drawAll h.accepts_draws]
    exact nodup_map_firsts _
  have hends : ((Network.empty.drawAll σ.draws).links.map NetworkLink.ends).Nodup := by
    rw [Network.links_drawAll h.accepts_draws]
    exact nodup_map_firsts _
  refine ⟨?_, fun n => ?_, fun e he => ?_, h.ids_labels_draws, fun t ht => ?_, fun t ht => ?_,
    fun n hn => ?_, fun l => h.mem_links_draws.1⟩
  · rw [h.boxes_draws]
    exact nodup_map_firsts _
  · rw [h.boxes_draws, mem_map_firsts, List.map_map]
    rfl
  · have hmem := h.mem_links_draws.2 (.inl ⟨e, he, rfl⟩)
    refine filter_eq_singleton (hends.of_map _) hmem fun l hl => ?_
    rw [decide_eq_true_iff]
    exact ⟨fun hle => List.inj_on_of_nodup_map hends hl hmem hle, fun hle => hle ▸ rfl⟩
  · refine List.count_eq_one_of_mem hids ?_
    rw [h.nodes_draws, List.map_append, List.mem_append, mem_map_firsts, mem_map_firsts,
      List.map_map, List.map_map]
    exact .inr (List.mem_map.2 ⟨t, ht, rfl⟩)
  · refine filter_eq_singleton (hends.of_map _) (h.mem_links_draws.2 (.inr ⟨t, ht, rfl⟩))
      fun l hl => ?_
    rw [decide_eq_true_iff]
    exact ⟨h.line_of_ghost_mem ht (h.mem_links_draws.1 hl),
      fun hlt => hlt ▸ Sym2.mem_mk_right _ _⟩
  · rw [h.boxes_draws] at hn
    obtain ⟨m, hm, hmn⟩ := List.mem_map.1 ((firsts_sublist _).subset hn)
    exact ⟨m, hm, hmn.symm⟩

end Drawable
end Scene
end SchemaDiagram
