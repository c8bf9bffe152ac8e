/-
# What is routed

When every entity has a box, each relation of a shown entity is drawn exactly
once: a relation into a hidden entity as the stub in the next slot of its
entity, and a relation into a shown entity as a side of the one edge that joins
the two names. Nothing else is drawn. Relations that agree in their field and
their target are told apart by their slots alone.

Key definitions: `innerJoins`, `hiddenRelations`, `Edge.ends`, `Route.Draws`.
Key theorems: `map_stubs_route`, `stubs_route`, `count_stubs_route`,
`exists_relation_of_mem_stubs`, `edges_route`, `ends_edges_route`, `draws_route`,
`Schema.draws_route_parse`, `Schema.draws_route_repeated`.
-/
import SchemaDiagram.Proofs.Diagram.Links
import SchemaDiagram.Proofs.Schema.Names

namespace SchemaDiagram

/-- The relations of some entities into shown ones, with the names of the
entities that declare them. -/
def joins (shown : String → Bool) (es : List Entity) : List Join :=
  es.flatMap fun e => (e.relations.filter fun r => shown r.target).map fun r => (e.name, r)

/-- The relations of an entity into hidden ones. -/
def hiddenRelations (shown : String → Bool) (e : Entity) : List Relation :=
  e.relations.filter fun r => !shown r.target

/-- Hidden relations with one field and target are counted entity by entity of a name. -/
theorem count_hiddenRelations {shown : String → Bool} {n f t : String} (ht : shown t = false)
    (es : List Entity) :
    (es.flatMap fun e => (hiddenRelations shown e).map fun r => (e.name, r.field, r.target)).count
        (n, f, t) =
      ((es.filter (·.name = n)).flatMap (·.relations)).countP
        fun r => r.field = f ∧ r.target = t := by
  induction es with
  | nil => rfl
  | cons e es ih =>
    rw [List.flatMap_cons, List.count_append, ih]
    by_cases hn : e.name = n
    · have hkept : (e :: es).filter (·.name = n) = e :: es.filter (·.name = n) :=
        List.filter_cons_of_pos (decide_eq_true hn)
      rw [hkept, List.flatMap_cons, List.countP_append, List.count_eq_countP, List.countP_map,
        hiddenRelations, List.countP_filter]
      refine congrArg (· + _) (List.countP_congr fun r _ => ?_)
      -- a relation to the hidden name is a hidden one
      simp only [Function.comp_apply, Bool.and_eq_true, beq_iff_eq, Prod.mk.injEq, hn, true_and,
        Bool.not_eq_true', decide_eq_true_eq, and_iff_left_iff_imp]
      rintro ⟨-, rfl⟩
      exact ht
    · have hdropped : (e :: es).filter (·.name = n) = es.filter (·.name = n) :=
        List.filter_cons_of_neg (by simpa using hn)
      have hnone : ((hiddenRelations shown e).map fun r => (e.name, r.field, r.target)).count
          (n, f, t) = 0 := by
        refine List.count_eq_zero.2 fun hmem => hn ?_
        obtain ⟨r, -, hr⟩ := List.mem_map.1 hmem
        exact (Prod.mk.inj hr).1
      rw [hdropped, hnone, Nat.zero_add]

theorem joins_cons (shown : String → Bool) (e : Entity) (es : List Entity) :
    joins shown (e :: es) =
      ((e.relations.filter fun r => shown r.target).map fun r => (e.name, r)) ++ joins shown es :=
  List.flatMap_cons

theorem mem_joins {shown : String → Bool} {es : List Entity} {j : Join} :
    j ∈ joins shown es ↔
      ∃ e ∈ es, ∃ r ∈ e.relations, shown r.target = true ∧ (e.name, r) = j := by
  simp [joins, and_assoc]

/-- What is listed entity by entity under their names is found by these names. -/
theorem filter_flatMap_of_name {β : Type} {f : Entity → List β} {key : β → String}
    (h : ∀ e, ∀ x ∈ f e, key x = e.name) (keep : String → Bool) (es : List Entity) :
    (es.flatMap f).filter (fun x => keep (key x)) =
      (es.filter fun e => keep e.name).flatMap f := by
  induction es with
  | nil => rfl
  | cons e es ih =>
    rw [List.flatMap_cons, List.filter_append, ih]
    by_cases hkeep : keep e.name = true
    · have hall : (f e).filter (fun x => keep (key x)) = f e :=
        List.filter_eq_self.2 fun x hx => (h e x hx).symm ▸ hkeep
      have hkept : (e :: es).filter (fun e => keep e.name) = e :: es.filter fun e => keep e.name :=
        List.filter_cons_of_pos hkeep
      rw [hall, hkept, List.flatMap_cons]
    · have hnone : (f e).filter (fun x => keep (key x)) = [] :=
        List.filter_eq_nil_iff.2 fun x hx => (h e x hx).symm ▸ hkeep
      have hdropped : (e :: es).filter (fun e => keep e.name) = es.filter fun e => keep e.name :=
        List.filter_cons_of_neg hkeep
      rw [hnone, hdropped, List.nil_append]

theorem joins_filter_name (shown keep : String → Bool) (es : List Entity) :
    joins shown (es.filter fun e => keep e.name) = (joins shown es).filter fun j => keep j.1 := by
  refine (filter_flatMap_of_name (fun e j hj => ?_) keep es).symm
  obtain ⟨r, -, rfl⟩ := List.mem_map.1 hj
  rfl

theorem joins_and (shown keep : String → Bool) (es : List Entity) :
    joins (fun n => shown n && keep n) es =
      (joins shown es).filter fun j => keep j.2.target := by
  rw [joins, joins, List.filter_flatMap]
  refine List.flatMap_congr fun e _ => ?_
  rw [List.filter_map, List.filter_filter]
  refine congrArg _ (List.filter_congr fun r _ => ?_)
  exact Bool.and_comm _ _

/-- The two names that an edge joins. -/
def Edge.ends {α : Type} (d : Edge α) : String × String := (d.source, d.target)

variable {α : Type} [Scalar α] {boxes : Keyed String (Box α)} {shown : String → Bool}

/-! ### Stubs -/

/-- The relations into hidden entities take the slots one after the other. -/
theorem stubsFrom_eq (name : String) (b : Box α) (slot : Nat) (rs : List Relation) :
    stubsFrom shown name b slot rs =
      ((rs.filter fun r => !shown r.target).zipIdx slot).map fun p =>
        Stub.onSlot name p.1 b p.2 := by
  induction rs generalizing slot with
  | nil => rfl
  | cons r rs ih =>
    rw [stubsFrom]
    by_cases h : shown r.target = true
    · rw [if_pos h, ih, List.filter_cons_of_neg (by simp [h])]
    · rw [if_neg h, ih, List.filter_cons_of_pos (by simp [h]), List.zipIdx_cons, List.map_cons]

theorem entityStubs_eq {e : Entity} {b : Box α} (h : boxes.find? e.name = some b) :
    entityStubs boxes shown e =
      (hiddenRelations shown e).zipIdx.map fun p => Stub.onSlot e.name p.1 b p.2 := by
  rw [entityStubs, h]
  exact stubsFrom_eq _ _ _ _

theorem exists_relation_of_mem_entityStubs {e : Entity} {t : Stub α}
    (h : t ∈ entityStubs boxes shown e) : ∃ r ∈ e.relations, r.target = t.target := by
  cases hb : boxes.find? e.name with
  | none =>
    rw [entityStubs, hb] at h
    cases h
  | some b =>
    rw [entityStubs_eq hb] at h
    obtain ⟨p, hp, rfl⟩ := List.mem_map.1 h
    exact ⟨p.1, (List.mem_filter.1 (List.fst_mem_of_mem_zipIdx hp)).1, rfl⟩

/-- A stub of a schema that was read stands for one of its names. -/
theorem Schema.target_mem_of_mem_stubs {source : String} {v : View α} {t : Stub α}
    (h : t ∈ (route (some (parse source)) v).stubs) : t.target ∈ (parse source).names := by
  obtain ⟨e, he, ht⟩ := List.mem_flatMap.1 h
  obtain ⟨r, hr, hrt⟩ := exists_relation_of_mem_entityStubs ht
  exact hrt ▸ target_mem_names (List.mem_filter.1 he).1 hr

/-! ### Edges -/

omit [Scalar α] in
/-- The entities with boxes take in their relations into shown ones. -/
theorem foldl_addLinks {es : List Entity} (h : ∀ e ∈ es, e.name ∈ boxes.keys) (links : Links) :
    es.foldl (addLinks boxes shown) links =
      (joins shown es).foldl (fun l j => l.add j.1 j.2) links := by
  induction es generalizing links with
  | nil => rfl
  | cons e es ih =>
    rw [List.forall_mem_cons] at h
    obtain ⟨b, hb⟩ := Keyed.exists_find?_of_mem_keys h.1
    rw [List.foldl_cons, ih h.2, joins_cons, List.foldl_append, List.foldl_map, addLinks, hb]

theorem Link.edge?_eq_some_iff {l : Link} {d : Edge α} :
    l.edge? boxes = some d ↔ ∃ a b, boxes.find? l.first = some a ∧ boxes.find? l.second = some b ∧
      d = ⟨l.first, l.second, l.sides.entries,
        cardinality (l.sides.find? l.first) (l.sides.find? l.second),
        a.right, a.midY, b.x, b.midY⟩ := by
  unfold Link.edge?
  cases boxes.find? l.first <;> cases boxes.find? l.second <;> simp [eq_comm]

/-! ### The route -/

/-- Some entity has the name. -/
def isDeclared (es : List Entity) (n : String) : Bool := (es.map (·.name)).contains n

/-- The relations of some entities that point to one of them. -/
def innerJoins (es : List Entity) : List Join := joins (isDeclared es) es

theorem mem_innerJoins {es : List Entity} {j : Join} :
    j ∈ innerJoins es ↔
      ∃ e ∈ es, ∃ r ∈ e.relations, r.target ∈ es.map (·.name) ∧ (e.name, r) = j := by
  rw [innerJoins, mem_joins]
  simp only [isDeclared, List.contains_iff_mem]

theorem names_of_mem_pairs {es : List Entity} {p : String × String}
    (h : p ∈ (innerJoins es).map Join.pair) :
    p.1 ∈ es.map (·.name) ∧ p.2 ∈ es.map (·.name) := by
  obtain ⟨j, hj, rfl⟩ := List.mem_map.1 h
  obtain ⟨e, he, r, hr, htarget, rfl⟩ := mem_innerJoins.1 hj
  have hsource : e.name ∈ es.map (·.name) := List.mem_map_of_mem he
  rcases orderedPair_cases e.name r.target with hp | hp
  · rw [Join.pair, hp]
    exact ⟨hsource, htarget⟩
  · rw [Join.pair, hp]
    exact ⟨htarget, hsource⟩

/-- The route draws each relation of the entities once and nothing else. -/
structure Route.Draws (ρ : Route α) (es : List Entity) : Prop where
  /-- Relations into other entities are stubs, in slots from zero on for each
  declaration. -/
  stubs_eq : ρ.stubs.map (fun t => (t.source, t.field, t.target, t.slot)) =
    es.flatMap fun e => (hiddenRelations (isDeclared es) e).zipIdx.map fun p =>
      (e.name, p.1.field, p.1.target, (p.2 : Int))
  /-- As many stubs agree in source, field and target as there are such relations. -/
  count_stubs : ∀ n f t, t ∉ es.map (·.name) →
    (ρ.stubs.map fun s => (s.source, s.field, s.target)).count (n, f, t) =
      ((es.filter (·.name = n)).flatMap (·.relations)).countP fun r => r.field = f ∧ r.target = t
  /-- A relation between the entities belongs to one edge. -/
  count_ends : ∀ e ∈ es, ∀ r ∈ e.relations, r.target ∈ es.map (·.name) →
    (ρ.edges.map Edge.ends).count (orderedPair e.name r.target) = 1
  /-- The entity that declares the relation has a side in that edge. -/
  mem_sides : ∀ e ∈ es, ∀ r ∈ e.relations, r.target ∈ es.map (·.name) → ∀ d ∈ ρ.edges,
    d.ends = orderedPair e.name r.target → e.name ∈ d.sides.map (·.1)
  exists_relation : ∀ d ∈ ρ.edges, ∃ e ∈ es, ∃ r ∈ e.relations,
    r.target ∈ es.map (·.name) ∧ d.ends = orderedPair e.name r.target
  ends_mem : ∀ d ∈ ρ.edges, d.source ∈ es.map (·.name) ∧ d.target ∈ es.map (·.name)
  source_le : ∀ d ∈ ρ.edges, d.source ≤ d.target
  nodup_ends : (ρ.edges.map Edge.ends).Nodup
  /-- Whoever has a side declares a relation to the other end. -/
  side_declared : ∀ d ∈ ρ.edges, ∀ n ∈ d.sides.map (·.1), ∃ e ∈ es, e.name = n ∧
    ∃ r ∈ e.relations, (n = d.source ∧ r.target = d.target) ∨ (n = d.target ∧ r.target = d.source)

omit [Scalar α] in
/-- A relation between the entities has an edge, in which it has a side. -/
theorem Route.Draws.exists_edge {ρ : Route α} {es : List Entity} (h : ρ.Draws es) {e : Entity}
    (he : e ∈ es) {r : Relation} (hr : r ∈ e.relations) (ht : r.target ∈ es.map (·.name)) :
    ∃ d ∈ ρ.edges, d.ends = orderedPair e.name r.target ∧ e.name ∈ d.sides.map (·.1) := by
  have hcount : 0 < (ρ.edges.map Edge.ends).count (orderedPair e.name r.target) := by
    rw [h.count_ends e he r hr ht]
    exact Nat.one_pos
  obtain ⟨d, hd, hends⟩ := List.mem_map.1 (List.count_pos_iff.1 hcount)
  exact ⟨d, hd, hends, h.mem_sides e he r hr ht d hd hends⟩

section

variable {schema : Option Schema} {v : View α}
  (hboxes : ∀ n ∈ (shownEntities schema v).map (·.name), n ∈ v.boxes.keys)
  (hcolons : ∀ n ∈ (shownEntities schema v).map (·.name), ':' ∉ n.toList)

include hboxes hcolons

/-- There is an edge for each pair of shown names between which there are relations. -/
theorem edges_route :
    (route schema v).edges =
      ((innerJoins (shownEntities schema v)).map Join.pair).eraseDups.filterMap fun p =>
        Link.edge? v.boxes ⟨p.1, p.2, sidesOf (innerJoins (shownEntities schema v)) p⟩ := by
  have hlinks : (route schema v).edges =
      (Links.ofJoins (innerJoins (shownEntities schema v))).values.filterMap
        (·.edge? v.boxes) := by
    rw [route, foldl_addLinks fun e he => hboxes _ (List.mem_map_of_mem he)]
    rfl
  have hpairs : ∀ j ∈ innerJoins (shownEntities schema v), ':' ∉ j.pair.1.toList := fun j hj =>
    hcolons _ (names_of_mem_pairs (List.mem_map_of_mem hj)).1
  rw [hlinks, Links.values_ofJoins hpairs, List.filterMap_map]
  rfl

theorem mem_edges_route {d : Edge α} (hd : d ∈ (route schema v).edges) :
    d.ends ∈ (innerJoins (shownEntities schema v)).map Join.pair ∧
      d.sides = (sidesOf (innerJoins (shownEntities schema v)) d.ends).entries := by
  rw [edges_route hboxes hcolons] at hd
  obtain ⟨p, hp, hpd⟩ := List.mem_filterMap.1 hd
  obtain ⟨a, b, -, -, rfl⟩ := Link.edge?_eq_some_iff.1 hpd
  exact ⟨List.mem_eraseDups.1 hp, rfl⟩

/-- No two edges join the same pair. -/
theorem ends_edges_route :
    (route schema v).edges.map Edge.ends =
      ((innerJoins (shownEntities schema v)).map Join.pair).eraseDups := by
  have hends : ∀ p ∈ ((innerJoins (shownEntities schema v)).map Join.pair).eraseDups,
      (Link.edge? v.boxes
        ⟨p.1, p.2, sidesOf (innerJoins (shownEntities schema v)) p⟩).map Edge.ends = some p := by
    intro p hp
    obtain ⟨h1, h2⟩ := names_of_mem_pairs (List.mem_eraseDups.1 hp)
    obtain ⟨a, ha⟩ := Keyed.exists_find?_of_mem_keys (hboxes _ h1)
    obtain ⟨b, hb⟩ := Keyed.exists_find?_of_mem_keys (hboxes _ h2)
    rw [Link.edge?_eq_some_iff.2 ⟨a, b, ha, hb, rfl⟩]
    rfl
  rw [edges_route hboxes hcolons, List.map_filterMap, List.filterMap_congr hends,
    List.filterMap_some]

omit hcolons in
/-- What is said of the stubs without saying where they are follows the hidden relations
and their slots. -/
theorem map_stubs_route {β : Type} {f : Stub α → β} (g : String → Relation → ℕ → β)
    (h : ∀ n r b k, f (Stub.onSlot n r b k) = g n r k) :
    (route schema v).stubs.map f =
      (shownEntities schema v).flatMap fun e =>
        (hiddenRelations (isDeclared (shownEntities schema v)) e).zipIdx.map fun p =>
          g e.name p.1 p.2 := by
  rw [route, List.map_flatMap]
  refine List.flatMap_congr fun e he => ?_
  obtain ⟨b, hb⟩ := Keyed.exists_find?_of_mem_keys (hboxes _ (List.mem_map_of_mem he))
  rw [entityStubs_eq hb, List.map_map]
  exact List.map_congr_left fun p _ => h e.name p.1 b p.2

omit hcolons in
/-- The same without the slots. -/
theorem map_stubs_route_relations {β : Type} {f : Stub α → β} (g : String → Relation → β)
    (h : ∀ n r b k, f (Stub.onSlot n r b k) = g n r) :
    (route schema v).stubs.map f =
      (shownEntities schema v).flatMap fun e =>
        (hiddenRelations (isDeclared (shownEntities schema v)) e).map (g e.name) := by
  rw [map_stubs_route hboxes (fun n r _ => g n r) h]
  refine List.flatMap_congr fun e _ => ?_
  have hindexed := congrArg (List.map (g e.name))
    (List.zipIdx_map_fst 0 (hiddenRelations (isDeclared (shownEntities schema v)) e))
  rw [List.map_map] at hindexed
  exact hindexed

omit hcolons in
/-- There is a stub for each relation of a shown entity into a hidden one. -/
theorem stubs_route :
    (route schema v).stubs.map (fun t => (t.source, t.field, t.target, t.slot)) =
      (shownEntities schema v).flatMap fun e =>
        (hiddenRelations (isDeclared (shownEntities schema v)) e).zipIdx.map fun p =>
          (e.name, p.1.field, p.1.target, (p.2 : Int)) :=
  map_stubs_route hboxes (fun n r k => (n, r.field, r.target, (k : Int))) fun _ _ _ _ => rfl

omit hcolons in
/-- Stubs with one source, field and target are as many as the relations they stand for. -/
theorem count_stubs_route {n f t : String}
    (ht : t ∉ (shownEntities schema v).map (·.name)) :
    ((route schema v).stubs.map fun s => (s.source, s.field, s.target)).count (n, f, t) =
      (((shownEntities schema v).filter (·.name = n)).flatMap (·.relations)).countP
        fun r => r.field = f ∧ r.target = t := by
  have hhidden : isDeclared (shownEntities schema v) t = false :=
    Bool.eq_false_iff.2 fun hn => ht (List.contains_iff_mem.1 hn)
  rw [map_stubs_route_relations hboxes (fun n r => (n, r.field, r.target)) fun _ _ _ _ => rfl]
  exact count_hiddenRelations hhidden _

omit hcolons in
/-- A stub stands for a relation that a shown entity declares to a hidden one. -/
theorem exists_relation_of_mem_stubs {t : Stub α} (ht : t ∈ (route schema v).stubs) :
    ∃ e ∈ shownEntities schema v, e.name = t.source ∧ ∃ r ∈ e.relations,
      r.field = t.field ∧ r.target = t.target ∧
        t.target ∉ (shownEntities schema v).map (·.name) := by
  have hmem := List.mem_map_of_mem (f := fun t => (t.source, t.field, t.target)) ht
  rw [map_stubs_route_relations hboxes (fun n r => (n, r.field, r.target)) fun _ _ _ _ => rfl]
    at hmem
  obtain ⟨e, he, hq⟩ := List.mem_flatMap.1 hmem
  obtain ⟨r, hr, hrt⟩ := List.mem_map.1 hq
  obtain ⟨hsource, hrest⟩ := Prod.mk.inj hrt
  obtain ⟨hfield, htarget⟩ := Prod.mk.inj hrest
  obtain ⟨hdeclares, hhidden⟩ := List.mem_filter.1 hr
  refine ⟨e, he, hsource, r, hdeclares, hfield, htarget, fun hn => ?_⟩
  rw [htarget, isDeclared, List.contains_iff_mem.2 hn] at hhidden
  cases hhidden

/-- What is drawn, if shown entities have boxes and their names no colons. -/
theorem draws_route : (route schema v).Draws (shownEntities schema v) where
  stubs_eq := stubs_route hboxes
  count_stubs _ _ _ := count_stubs_route hboxes
  count_ends e he r hr ht := by
    have hj : (e.name, r) ∈ innerJoins (shownEntities schema v) :=
      mem_innerJoins.2 ⟨e, he, r, hr, ht, rfl⟩
    rw [ends_edges_route hboxes hcolons]
    refine List.count_eq_one_of_mem (nodup_eraseDups _) (List.mem_eraseDups.2 ?_)
    exact List.mem_map.2 ⟨_, hj, rfl⟩
  nodup_ends := by
    rw [ends_edges_route hboxes hcolons]
    exact nodup_eraseDups _
  mem_sides e he r hr ht d hd hends := by
    have hj : (e.name, r) ∈ innerJoins (shownEntities schema v) :=
      mem_innerJoins.2 ⟨e, he, r, hr, ht, rfl⟩
    rw [(mem_edges_route hboxes hcolons hd).2]
    exact mem_keys_sidesOf.2 ⟨_, hj, hends.symm, rfl⟩
  exists_relation d hd := by
    obtain ⟨j, hj, hjd⟩ := List.mem_map.1 (mem_edges_route hboxes hcolons hd).1
    obtain ⟨e, he, r, hr, ht, rfl⟩ := mem_innerJoins.1 hj
    exact ⟨e, he, r, hr, ht, hjd.symm⟩
  ends_mem d hd := names_of_mem_pairs (mem_edges_route hboxes hcolons hd).1
  source_le d hd := by
    obtain ⟨j, -, hjd⟩ := List.mem_map.1 (mem_edges_route hboxes hcolons hd).1
    have hle := orderedPair_le j.1 j.2.target
    rw [show orderedPair j.1 j.2.target = d.ends from hjd] at hle
    exact hle
  side_declared d hd n hn := by
    rw [(mem_edges_route hboxes hcolons hd).2] at hn
    obtain ⟨j, hj, hjd, rfl⟩ := mem_keys_sidesOf.1 hn
    obtain ⟨e, he, r, hr, -, rfl⟩ := mem_innerJoins.1 hj
    refine ⟨e, he, rfl, r, hr, ?_⟩
    rcases orderedPair_cases e.name r.target with hp | hp
    · have hends : (e.name, r.target) = d.ends := hp.symm.trans hjd
      exact .inl ⟨congrArg (·.1) hends, congrArg (·.2) hends⟩
    · have hends : (r.target, e.name) = d.ends := hp.symm.trans hjd
      exact .inr ⟨congrArg (·.2) hends, congrArg (·.1) hends⟩

end

omit [Scalar α] in
theorem Schema.mem_shown {m : Schema} {v : View α} {e : Entity} :
    e ∈ shownEntities (some m) v ↔ e ∈ m.entities ∧ e.name ∈ v.selected.names := by
  rw [shownEntities, List.mem_filter, Selection.has_iff]

omit [Scalar α] in
/-- The shown names are those that are declared and selected. -/
theorem Schema.mem_names_shown {m : Schema} {v : View α} {n : String} :
    n ∈ (shownEntities (some m) v).map (·.name) ↔ n ∈ m.names ∧ n ∈ v.selected.names := by
  constructor
  · intro h
    obtain ⟨e, he, rfl⟩ := List.mem_map.1 h
    obtain ⟨hmem, hsel⟩ := mem_shown.1 he
    exact ⟨List.mem_map_of_mem hmem, hsel⟩
  · rintro ⟨hmem, hsel⟩
    obtain ⟨e, he, rfl⟩ := List.mem_map.1 hmem
    exact List.mem_map_of_mem (mem_shown.2 ⟨he, hsel⟩)

omit [Scalar α] in
theorem Schema.names_shown {m : Schema} {v : View α} {n : String}
    (h : n ∈ (shownEntities (some m) v).map (·.name)) : n ∈ m.names ∧ n ∈ v.selected.names :=
  mem_names_shown.1 h

omit [Scalar α] in
theorem Schema.colons_shown {source : String} {v : View α} :
    ∀ n ∈ (shownEntities (some (parse source)) v).map (·.name), ':' ∉ n.toList :=
  fun _ hn => colon_not_mem_of_mem_names (names_shown hn).1

/-- **Routing loses nothing and invents nothing**, whatever the text and whatever is
selected, and its edges join selected names. -/
theorem Schema.draws_route_parse (source : String) (v : View α)
    (h : ∀ n ∈ (parse source).names, n ∈ v.boxes.keys) :
    let visible := (parse source).entities.filter fun e => e.name ∈ v.selected.names
    (route (some (parse source)) v).Draws visible ∧
      ∀ d ∈ (route (some (parse source)) v).edges,
        d.source ∈ v.selected.names ∧ d.target ∈ v.selected.names := by
  intro visible
  have hvisible : visible = shownEntities (some (parse source)) v :=
    List.filter_congr fun e _ => Bool.eq_iff_iff.2 (decide_eq_true_iff.trans Selection.has_iff.symm)
  have hdraws : (route (some (parse source)) v).Draws visible := by
    rw [hvisible]
    exact draws_route (fun n hn => h n (names_shown hn).1) colons_shown
  refine ⟨hdraws, fun d hd => ?_⟩
  obtain ⟨hsource, htarget⟩ := hdraws.ends_mem d hd
  rw [hvisible] at hsource htarget
  exact ⟨(names_shown hsource).2, (names_shown htarget).2⟩

/-- Two entities that point to each other, one of which points to itself as well. -/
theorem Schema.draws_route_mutual :
    let source := "model A \x7b\n  b B[]\n  up A?\n\x7d\nmodel B \x7b\n  a A\n\x7d"
    let box : Box Float := ⟨0.0, 0.0, 240.0, 80.0⟩
    let v := View.selectAll (.ofBoxes (.ofList [("A", box), ("B", box)])) ["A", "B"]
    (∀ n ∈ (parse source).names, n ∈ v.boxes.keys) ∧
      (route (some (parse source)) v).Draws
        ((parse source).entities.filter fun e => e.name ∈ v.selected.names) :=
  ⟨by decide, (draws_route_parse _ _ (by decide)).1⟩

/-- Two relations of one entity with the same field and the same hidden target have a stub
each. -/
theorem Schema.draws_route_repeated :
    let source := "model A \x7b\n  b B\n  b B?\n\x7d\nmodel B \x7b\n\x7d\n"
    let box : Box Float := ⟨0.0, 0.0, 240.0, 80.0⟩
    let v := View.select (.ofBoxes (.ofList [("A", box), ("B", box)])) "A"
    let visible := (parse source).entities.filter fun e => e.name ∈ v.selected.names
    (∀ n ∈ (parse source).names, n ∈ v.boxes.keys) ∧
      ¬ ∀ e ∈ visible, ∀ r ∈ e.relations, r.target ∉ visible.map (·.name) →
        ((route (some (parse source)) v).stubs.map fun s => (s.source, s.field, s.target)).count
          (e.name, r.field, r.target) = 1 := by
  decide +kernel

end SchemaDiagram
