/-
# What one reveal changes

Revealing a stub moves the box of its target and selects the target. As long as the target
is hidden its box is not drawn (`route_rebox`), so that a reveal comes to selecting one
name more (`View.reveal_eq_reselect`): what was drawn is drawn as before, except that
every stub to the target becomes an edge and the stubs below it move up. The stubs of the
target itself are new.

Key definitions: `View.rebox`, `View.Reveals`, `Route.Reveals`.
Key theorems: `route_rebox`, `View.reveal_eq_reselect`, `View.reveals_reveal`,
`Schema.reveals_route`.
-/
import SchemaDiagram.Proofs.Diagram.Disclosure
import SchemaDiagram.Proofs.Diagram.Widening
import SchemaDiagram.Proofs.Exact

namespace SchemaDiagram

variable {α : Type}

/-- The view with other boxes. -/
def View.rebox (v : View α) (boxes : Keyed String (Box α)) : View α := { v with boxes := boxes }

/-! ### Boxes that are not drawn -/

section

variable [Scalar α] {schema : Option Schema} {v : View α} {boxes : Keyed String (Box α)}

theorem entityStubs_congr {shown : String → Bool} {e : Entity}
    (h : boxes.find? e.name = v.boxes.find? e.name) :
    entityStubs boxes shown e = entityStubs v.boxes shown e := by
  rw [entityStubs, entityStubs, h]

theorem Link.edge?_congr {l : Link} (hfirst : boxes.find? l.first = v.boxes.find? l.first)
    (hsecond : boxes.find? l.second = v.boxes.find? l.second) :
    l.edge? boxes = l.edge? v.boxes := by
  rw [edge?, edge?, hfirst, hsecond]

/-- The route goes by the boxes of the shown names. -/
theorem route_rebox
    (hkeys : ∀ n ∈ (shownEntities schema v).map (·.name), n ∈ v.boxes.keys)
    (hcolons : ∀ n ∈ (shownEntities schema v).map (·.name), ':' ∉ n.toList)
    (hboxes : ∀ n ∈ (shownEntities schema v).map (·.name), boxes.find? n = v.boxes.find? n) :
    route schema (v.rebox boxes) = route schema v := by
  have hkeys' : ∀ n ∈ (shownEntities schema (v.rebox boxes)).map (·.name), n ∈ boxes.keys := by
    intro n hn
    rw [← Keyed.isSome_find?_iff, hboxes n hn, Keyed.isSome_find?_iff]
    exact hkeys n hn
  have hedges : (route schema (v.rebox boxes)).edges = (route schema v).edges := by
    rw [edges_route hkeys hcolons, edges_route hkeys' hcolons]
    refine List.filterMap_congr fun p hp => ?_
    obtain ⟨hfirst, hsecond⟩ := names_of_mem_pairs (List.mem_eraseDups.1 hp)
    exact Link.edge?_congr (hboxes _ hfirst) (hboxes _ hsecond)
  have hstubs : (route schema (v.rebox boxes)).stubs = (route schema v).stubs :=
    List.flatMap_congr fun e he => entityStubs_congr (hboxes _ (List.mem_map_of_mem he))
  exact congrArg₂ Route.mk hedges hstubs

end

/-! ### The target -/

/-- The box of the target put beside the end of a stub. -/
def Stub.park [Scalar α] (t : Stub α) (b : Box α) : Box α :=
  b.moveTo ⟨t.revealOrigin.x, t.revealOrigin.y - b.height / 2.0⟩

/-- A reveal is a selection of one name more, once the box of that name has been moved. -/
theorem View.reveal_eq_reselect [Scalar α] {v : View α} {t : Stub α} {b : Box α}
    (hb : v.boxes.find? t.target = some b) :
    v.reveal t = (v.rebox (v.boxes.put t.target (t.park b))).reselect
      (v.selected.insert t.target) := by
  have hselect : (v.select t.target).boxes.find? t.target = some b := hb
  simp only [reveal, hselect]
  rfl

/-- The target of a stub, which was hidden, is selected, and of the boxes only that of the
target has moved: it stands beside the end of the stub, its middle at the same height. -/
structure View.Reveals (v w : View ℚ) (t : Stub ℚ) : Prop where
  hidden : t.target ∉ v.selected.names
  selected : ∀ n, n ∈ w.selected.names ↔ n = t.target ∨ n ∈ v.selected.names
  boxes : ∀ n, n ≠ t.target → w.boxes.find? n = v.boxes.find? n
  target : ∃ b c, v.boxes.find? t.target = some b ∧ w.boxes.find? t.target = some c ∧
    c.x = t.x2 + 56 ∧ c.midY = t.y2 ∧ c.width = b.width ∧ c.height = b.height

theorem Stub.x_park (t : Stub ℚ) (b : Box ℚ) : (t.park b).x = t.x2 + 56 := by
  show t.x2 + 56.0 = t.x2 + 56
  norm_num

theorem Stub.midY_park (t : Stub ℚ) (b : Box ℚ) : (t.park b).midY = t.y2 :=
  sub_add_cancel t.y2 (b.height / 2.0)

theorem View.reveals_reveal {v : View ℚ} {t : Stub ℚ} {b : Box ℚ}
    (hhidden : t.target ∉ v.selected.names) (hb : v.boxes.find? t.target = some b) :
    v.Reveals (v.reveal t) t where
  hidden := hhidden
  selected n := by rw [selected_reveal, Selection.mem_insert]
  boxes n hn := by
    rw [reveal_eq_reselect hb]
    exact Keyed.find?_put_of_ne _ hn
  target := by
    rw [reveal_eq_reselect hb]
    exact ⟨b, t.park b, hb, Keyed.find?_put_self _ _ _, t.x_park b, t.midY_park b, rfl, rfl⟩

/-! ### The route -/

/-- What was drawn is drawn as before, except for the stubs to the target, which become
edges; the stubs of other names stay where they were or move up. -/
structure Route.Reveals (ρ σ : Route α) (t : Stub α) : Prop where
  edges : ρ.edges.Sublist σ.edges
  no_stub : ∀ u ∈ σ.stubs, u.target ≠ t.target
  /-- Whoever had a stub to the target has a side in an edge to it. -/
  joined : ∀ u ∈ ρ.stubs, u.target = t.target →
    ∃ d ∈ σ.edges, d.ends = orderedPair u.source t.target ∧ u.source ∈ d.sides.map (·.1)
  stub : ∀ u ∈ σ.stubs, u.source ≠ t.target → ∃ w ∈ ρ.stubs,
    w.source = u.source ∧ w.field = u.field ∧ w.target = u.target ∧ u.slot ≤ w.slot

namespace Schema

variable [Scalar α] {source : String} {v : View α} {t : Stub α}

/-- A reveal is a selection of one name more in a view that has the same route. -/
theorem exists_reselect_of_stub (h : v.Covers (parse source).names)
    (ht : t ∈ (route (some (parse source)) v).stubs) :
    ∃ w : View α, w.selected = v.selected ∧
      route (some (parse source)) w = route (some (parse source)) v ∧
      v.reveal t = w.reselect (v.selected.insert t.target) := by
  obtain ⟨b, hb⟩ := Keyed.exists_find?_of_mem_keys (h.boxes _ (target_mem_of_mem_stubs ht))
  refine ⟨v.rebox (v.boxes.put t.target (t.park b)), rfl, ?_, View.reveal_eq_reselect hb⟩
  refine route_rebox h.boxes_shown colons_shown fun n hn => Keyed.find?_put_of_ne _ ?_
  rintro rfl
  exact h.not_mem_of_stub ht (names_shown hn).2

/-- **What a reveal changes of the route**, whatever the text and whatever is selected. -/
theorem reveals_route (h : v.Covers (parse source).names)
    (ht : t ∈ (route (some (parse source)) v).stubs) :
    (route (some (parse source)) v).Reveals (route (some (parse source)) (v.reveal t)) t := by
  have hcovers : (v.reveal t).Covers (parse source).names := h.reveal (target_mem_of_mem_stubs ht)
  have hmem : ∀ n, n ∈ (v.reveal t).selected.names ↔ n = t.target ∨ n ∈ v.selected.names := by
    intro n
    rw [View.selected_reveal, Selection.mem_insert]
  obtain ⟨w, hselected, hroute, hreveal⟩ := exists_reselect_of_stub h ht
  have hmore : w.selected.names ⊆ (v.selected.insert t.target).names := by
    intro n hn
    exact Selection.mem_insert.2 (.inr (hselected ▸ hn))
  have hwide : (w.reselect (v.selected.insert t.target)).Covers (parse source).names :=
    hreveal ▸ hcovers
  have hboxes := hwide.boxes_shown
  refine ⟨?_, fun u hu htu => ?_, fun u hu htu => ?_, fun u hu hsource => ?_⟩
  · rw [← hroute, edges_reselect hmore hboxes colons_shown, hreveal]
    exact List.filter_sublist
  · have hnew := hcovers.not_mem_of_stub hu
    rw [htu, hmem] at hnew
    exact hnew (.inl rfl)
  · -- the relation of the stub joins two selected names now
    obtain ⟨e, he, hname, r, hr, -, htarget, -⟩ := exists_relation_of_mem_stubs h.boxes_shown hu
    obtain ⟨hdeclared, hsource⟩ := mem_shown.1 he
    rw [← hname, ← htu, ← htarget]
    exact hcovers.exists_edge hdeclared ((hmem _).2 (.inr hsource)) hr
      ((hmem _).2 (.inl (htarget.trans htu)))
  · obtain ⟨e, he, hname, -⟩ := exists_relation_of_mem_stubs hcovers.boxes_shown hu
    have hshown := (names_shown (List.mem_map_of_mem he)).2
    rw [hname, hmem] at hshown
    rw [hreveal] at hu
    obtain ⟨x, hx, hdeclared, hslot⟩ := exists_stub_reselect hmore hboxes hu
      (hselected ▸ hshown.resolve_left hsource)
    rw [hroute] at hx
    obtain ⟨hxsource, hxfield, hxtarget⟩ := Stub.declared_eq_declared_iff.1 hdeclared
    exact ⟨x, hx, hxsource, hxfield, hxtarget, hslot⟩

end Schema

end SchemaDiagram
