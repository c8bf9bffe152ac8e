/-
# Selecting more

The relations between some names are those among all that join two of them, in the same
order (`innerJoins_filter`), and a pair has its sides from the relations that join it. So
the edges of a selection are the edges of every larger one that join two of its names,
with the same sides, labels and coordinates (`edges_reselect`). Fewer targets are hidden
when more is selected, so a name gets no stub that it had not before
(`declared_reselect`); only the slots may move up (`exists_stub_reselect`).

Key definitions: `View.reselect`, `Stub.declared`, `Route.Widens`.
Key theorems: `innerJoins_filter`, `sidesOf_filter`, `edges_reselect`,
`declared_reselect`, `exists_stub_reselect`, `Schema.widens_route_parse`.
-/
import Mathlib.Data.List.Flatten
import Mathlib.Data.List.NodupEquivFin
import Mathlib.Order.WellFounded
import SchemaDiagram.Proofs.Diagram.Routing

namespace SchemaDiagram

/-! ### Relations between fewer entities -/

theorem isDeclared_filter (keep : String → Bool) (es : List Entity) :
    isDeclared (es.filter fun e => keep e.name) = fun n => isDeclared es n && keep n := by
  funext n
  rw [Bool.eq_iff_iff, Bool.and_eq_true, isDeclared, isDeclared, List.contains_iff_mem,
    List.contains_iff_mem]
  constructor
  · intro hn
    obtain ⟨e, he, rfl⟩ := List.mem_map.1 hn
    obtain ⟨hmem, hkeep⟩ := List.mem_filter.1 he
    exact ⟨List.mem_map_of_mem hmem, hkeep⟩
  · rintro ⟨hn, hkeep⟩
    obtain ⟨e, he, rfl⟩ := List.mem_map.1 hn
    exact List.mem_map_of_mem (List.mem_filter.2 ⟨he, hkeep⟩)

/-- The entities of some names have the relations that join two of these. -/
theorem innerJoins_filter (keep : String → Bool) (es : List Entity) :
    innerJoins (es.filter fun e => keep e.name) =
      (innerJoins es).filter fun j => keep j.pair.1 && keep j.pair.2 := by
  rw [innerJoins, isDeclared_filter, joins_filter_name, joins_and, List.filter_filter]
  refine List.filter_congr fun j _ => ?_
  rcases orderedPair_cases j.1 j.2.target with hp | hp
  · rw [Join.pair, hp]
  · rw [Join.pair, hp, Bool.and_comm]

/-- The sides of a pair come from the relations that join it. -/
theorem sidesOf_filter {keep : String × String → Bool} {p : String × String}
    (hp : keep p = true) (js : List Join) :
    sidesOf (js.filter fun j => keep j.pair) p = sidesOf js p := by
  have hfilter : (js.filter fun j => keep j.pair).filter (·.pair = p) = js.filter (·.pair = p) := by
    rw [List.filter_filter]
    refine List.filter_congr fun j _ => ?_
    by_cases hj : j.pair = p
    · rw [hj, hp, Bool.and_true]
    · rw [decide_eq_false hj, Bool.false_and]
  rw [sidesOf, sidesOf, hfilter]

variable {α : Type}

/-- The view with another selection. -/
def View.reselect (v : View α) (names : Selection) : View α := { v with selected := names }

/-- Both names are selected. -/
def View.selectsBoth (v : View α) (p : String × String) : Bool :=
  v.selected.has p.1 && v.selected.has p.2

/-- The relation that a stub stands for: who declares it, its field and its target. -/
def Stub.declared (t : Stub α) : String × String × String := (t.source, t.field, t.target)

theorem Stub.declared_eq_declared_iff {t u : Stub α} :
    t.declared = u.declared ↔ t.source = u.source ∧ t.field = u.field ∧ t.target = u.target := by
  rw [declared, declared, Prod.mk.injEq, Prod.mk.injEq]

theorem shownEntities_reselect {v : View α} {more : Selection}
    (hmore : v.selected.names ⊆ more.names) (schema : Option Schema) :
    shownEntities schema v =
      (shownEntities schema (v.reselect more)).filter fun e => v.selected.has e.name := by
  cases schema with
  | none => rfl
  | some m =>
    have hhas : ∀ n, v.selected.has n = true → more.has n = true := fun n hn =>
      Selection.has_iff.2 (hmore (Selection.has_iff.1 hn))
    show m.entities.filter _ = (m.entities.filter _).filter _
    rw [List.filter_filter]
    refine List.filter_congr fun e _ => ?_
    rw [Bool.eq_iff_iff, Bool.and_eq_true]
    exact ⟨fun hn => ⟨hn, hhas _ hn⟩, fun h => h.1⟩

theorem names_shown_reselect {v : View α} {more : Selection}
    (hmore : v.selected.names ⊆ more.names) (schema : Option Schema) :
    (shownEntities schema v).map (·.name) ⊆
      (shownEntities schema (v.reselect more)).map (·.name) := by
  rw [shownEntities_reselect hmore]
  exact (List.filter_sublist.map _).subset

theorem hiddenRelations_sublist {es more : List Entity}
    (h : es.map (·.name) ⊆ more.map (·.name)) (e : Entity) :
    (hiddenRelations (isDeclared more) e).Sublist (hiddenRelations (isDeclared es) e) := by
  refine List.monotone_filter_right _ fun r hr => ?_
  simp only [Bool.not_eq_true', isDeclared, List.contains_eq_mem, decide_eq_false_iff_not] at hr ⊢
  exact fun hn => hr (h hn)

/-- What is left of a list stands no further down than before. -/
theorem exists_mem_zipIdx_of_sublist {γ : Type} {l m : List γ} (h : l.Sublist m) {p : γ × ℕ}
    (hp : p ∈ l.zipIdx) : ∃ q ∈ m.zipIdx, q.1 = p.1 ∧ p.2 ≤ q.2 := by
  obtain ⟨f, hf⟩ := List.sublist_iff_exists_orderEmbedding_getElem?_eq.1 h
  have hplace : m[f p.2]? = some p.1 := (hf p.2).symm.trans (List.mem_zipIdx_iff_getElem?.1 hp)
  exact ⟨(p.1, f p.2), List.mem_zipIdx_iff_getElem?.2 hplace, rfl,
    StrictMono.le_apply f.strictMono⟩

/-! ### Edges -/

variable [Scalar α] {boxes : Keyed String (Box α)}

/-- The edge of a pair joins its names. -/
theorem Link.filter_edge? (keep : String × String → Bool) (l : Link) :
    (l.edge? boxes).filter (fun d => keep d.ends) =
      if keep (l.first, l.second) then l.edge? boxes else none := by
  cases hd : l.edge? boxes with
  | none => rw [Option.filter_none, ite_self]
  | some d =>
    obtain ⟨a, b, -, -, rfl⟩ := Link.edge?_eq_some_iff.1 hd
    rfl

section

variable {schema : Option Schema} {v : View α} {more : Selection}
  (hmore : v.selected.names ⊆ more.names)
  (hboxes : ∀ n ∈ (shownEntities schema (v.reselect more)).map (·.name), n ∈ v.boxes.keys)

include hmore hboxes

/-- The edges of fewer names are those that join two of them. -/
theorem edges_reselect
    (hcolons : ∀ n ∈ (shownEntities schema (v.reselect more)).map (·.name), ':' ∉ n.toList) :
    (route schema v).edges =
      (route schema (v.reselect more)).edges.filter fun d => v.selectsBoth d.ends := by
  have hsub := names_shown_reselect hmore schema
  have hjoins : innerJoins (shownEntities schema v) =
      (innerJoins (shownEntities schema (v.reselect more))).filter fun j =>
        v.selectsBoth j.pair := by
    rw [shownEntities_reselect hmore, innerJoins_filter]
    rfl
  have hpairs : (innerJoins (shownEntities schema v)).map Join.pair =
      ((innerJoins (shownEntities schema (v.reselect more))).map Join.pair).filter
        v.selectsBoth := by
    rw [hjoins, List.filter_map]
    rfl
  rw [edges_route (fun n hn => hboxes n (hsub hn)) fun n hn => hcolons n (hsub hn),
    edges_route hboxes hcolons, hpairs, eraseDups_filter, List.filterMap_filter,
    List.filter_filterMap]
  refine List.filterMap_congr fun p _ => ?_
  rw [Link.filter_edge?]
  by_cases hp : v.selectsBoth p = true
  · rw [if_pos hp, if_pos hp, hjoins, sidesOf_filter hp]
    rfl
  · rw [if_neg hp, if_neg hp]

/-! ### Stubs -/

omit hmore hboxes in
/-- The stubs stand for the relations of shown entities into hidden ones. -/
theorem declared_route (hboxes : ∀ n ∈ (shownEntities schema v).map (·.name), n ∈ v.boxes.keys) :
    (route schema v).stubs.map Stub.declared =
      (shownEntities schema v).flatMap fun e =>
        (hiddenRelations (isDeclared (shownEntities schema v)) e).map fun r =>
          (e.name, r.field, r.target) :=
  map_stubs_route_relations hboxes (fun n r => (n, r.field, r.target)) fun _ _ _ _ => rfl

/-- The stubs at fewer names stand for what the stubs at more stand for, and for the
relations to names that are hidden again. -/
theorem declared_reselect :
    (((route schema (v.reselect more)).stubs.map Stub.declared).filter fun q =>
      v.selected.has q.1).Sublist ((route schema v).stubs.map Stub.declared) := by
  have hsub := names_shown_reselect hmore schema
  rw [declared_route hboxes, declared_route fun n hn => hboxes n (hsub hn),
    filter_flatMap_of_name fun e q hq => ?_, ← shownEntities_reselect hmore]
  · exact List.Sublist.flatMap_right _ fun e _ => (hiddenRelations_sublist hsub e).map _
  · obtain ⟨r, -, rfl⟩ := List.mem_map.1 hq
    rfl

/-- A stub of a name that was selected stood there before, in the same slot or further
down. -/
theorem exists_stub_reselect {t : Stub α} (ht : t ∈ (route schema (v.reselect more)).stubs)
    (hsource : t.source ∈ v.selected.names) :
    ∃ u ∈ (route schema v).stubs, u.declared = t.declared ∧ t.slot ≤ u.slot := by
  have hsub := names_shown_reselect hmore schema
  have hmem := List.mem_map_of_mem (f := fun t => (t.source, t.field, t.target, t.slot)) ht
  rw [stubs_route hboxes] at hmem
  obtain ⟨e, he, hq⟩ := List.mem_flatMap.1 hmem
  obtain ⟨p, hp, hpt⟩ := List.mem_map.1 hq
  simp only [Prod.mk.injEq] at hpt
  obtain ⟨hname, hfield, htarget, hslot⟩ := hpt
  have hshown : e ∈ shownEntities schema v := by
    rw [shownEntities_reselect hmore]
    exact List.mem_filter.2 ⟨he, Selection.has_iff.2 (hname ▸ hsource)⟩
  obtain ⟨q, hq, hqp, hle⟩ := exists_mem_zipIdx_of_sublist (hiddenRelations_sublist hsub e) hp
  have hold : (e.name, q.1.field, q.1.target, (q.2 : ℤ)) ∈
      (route schema v).stubs.map fun t => (t.source, t.field, t.target, t.slot) := by
    rw [stubs_route fun n hn => hboxes n (hsub hn)]
    exact List.mem_flatMap.2 ⟨e, hshown, List.mem_map_of_mem hq⟩
  obtain ⟨u, hu, hue⟩ := List.mem_map.1 hold
  simp only [Prod.mk.injEq, hqp] at hue
  obtain ⟨huname, hufield, hutarget, huslot⟩ := hue
  refine ⟨u, hu, Stub.declared_eq_declared_iff.2 ⟨?_, ?_, ?_⟩, ?_⟩
  · exact huname.trans hname
  · exact hufield.trans hfield
  · exact hutarget.trans htarget
  · rw [huslot, ← hslot]
    exact Int.ofNat_le.2 hle

end

/-- The route of more names leaves what the other route shows of fewer as it is. -/
structure Route.Widens (ρ σ : Route α) (fewer : Selection) : Prop where
  /-- The edges stay, with all that is drawn of them, in their order. -/
  edges : ρ.edges.Sublist σ.edges
  /-- An edge that comes joins a name that was not selected. -/
  new_edge : ∀ d ∈ σ.edges, d ∈ ρ.edges ∨ d.source ∉ fewer.names ∨ d.target ∉ fewer.names
  /-- The stubs at names that were selected stand for what stubs stood for before. -/
  declared : ((σ.stubs.map Stub.declared).filter fun q => fewer.has q.1).Sublist
    (ρ.stubs.map Stub.declared)
  stub : ∀ t ∈ σ.stubs, t.source ∈ fewer.names →
    ∃ u ∈ ρ.stubs, u.source = t.source ∧ u.field = t.field ∧ u.target = t.target

/-- **Showing more never disturbs what is shown**, whatever the text and whatever is
selected on top. -/
theorem Schema.widens_route_parse (source : String) (v : View α) (more : Selection)
    (hboxes : ∀ n ∈ (parse source).names, n ∈ v.boxes.keys)
    (hmore : v.selected.names ⊆ more.names) :
    (route (some (parse source)) v).Widens
      (route (some (parse source)) (v.reselect more)) v.selected := by
  have hshown : ∀ n ∈ (shownEntities (some (parse source)) (v.reselect more)).map (·.name),
      n ∈ (parse source).names := fun n hn => (names_shown hn).1
  have hedges := edges_reselect hmore (fun n hn => hboxes n (hshown n hn))
    fun n hn => colon_not_mem_of_mem_names (hshown n hn)
  have hdeclared := declared_reselect hmore fun n hn => hboxes n (hshown n hn)
  refine ⟨?_, fun d hd => ?_, hdeclared, fun t ht hsource => ?_⟩
  · rw [hedges]
    exact List.filter_sublist
  · by_cases hboth : v.selectsBoth d.ends = true
    · refine .inl ?_
      rw [hedges]
      exact List.mem_filter.2 ⟨hd, hboth⟩
    · refine .inr ?_
      rw [View.selectsBoth, Bool.and_eq_true, not_and_or, Selection.has_iff,
        Selection.has_iff] at hboth
      exact hboth
  · have hmem : t.declared ∈ (route (some (parse source)) v).stubs.map Stub.declared :=
      hdeclared.subset (List.mem_filter.2 ⟨List.mem_map_of_mem ht, Selection.has_iff.2 hsource⟩)
    obtain ⟨u, hu, hut⟩ := List.mem_map.1 hmem
    obtain ⟨hs, hrest⟩ := Prod.mk.inj hut
    obtain ⟨hf, ht'⟩ := Prod.mk.inj hrest
    exact ⟨u, hu, hs, hf, ht'⟩

/-- A third name, to which a stub led and which points back, is selected on top of two
that point to each other. -/
theorem Schema.widens_route_third :
    let source := "model A \x7b\n  c C\n  b B[]\n  d D\n\x7d\nmodel C \x7b\n  a A?\n\x7d\n" ++
      "model B \x7b\n  a A\n\x7d\nmodel D \x7b\n\x7d"
    let box : Box Float := ⟨0.0, 0.0, 240.0, 80.0⟩
    let v := View.selectAll (.ofBoxes (.ofList [("A", box), ("B", box), ("C", box), ("D", box)]))
      ["A", "B"]
    let more := Selection.ofList ["A", "B", "C"]
    (∀ n ∈ (parse source).names, n ∈ v.boxes.keys) ∧ v.selected.names ⊆ more.names ∧
      (route (some (parse source)) v).Widens
        (route (some (parse source)) (v.reselect more)) v.selected ∧
      (route (some (parse source)) v).edges.map Edge.ends = [("A", "B")] ∧
      (route (some (parse source)) (v.reselect more)).edges.map Edge.ends =
        [("A", "C"), ("A", "B")] ∧
      (route (some (parse source)) v).stubs.map (fun t => (t.declared, t.slot)) =
        [(("A", "c", "C"), 0), (("A", "d", "D"), 1)] ∧
      (route (some (parse source)) (v.reselect more)).stubs.map (fun t => (t.declared, t.slot)) =
        [(("A", "d", "D"), 0)] := by
  intro source box v more
  have hboxes : ∀ n ∈ (parse source).names, n ∈ v.boxes.keys := by decide +kernel
  have hmore : v.selected.names ⊆ more.names := by decide +kernel
  refine ⟨hboxes, hmore, widens_route_parse source v more hboxes hmore, ?_⟩
  decide +kernel

end SchemaDiagram
