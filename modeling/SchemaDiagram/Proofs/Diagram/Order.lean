/-
# The order of declarations

Entities of distinct names can be declared in any order: the diagram shows the same edges
and stubs. Whichever end of a pair is met first, the pair is the same, and its sides are
those of the relations that each end declares (`find?_sidesOf_perm`). So only the order in
which edges, stubs and sides are listed depends on the order of the entities.

Key definitions: `Edge.content`.
Key theorems: `filter_name_eq_of_perm`, `innerJoins_perm`, `find?_sidesOf_perm`,
`edges_route_perm`, `stubs_route_perm`, `Schema.route_ofEntities_perm`.
-/
import SchemaDiagram.Proofs.Diagram.Routing
import SchemaDiagram.Proofs.Schema.Resolved

namespace SchemaDiagram

/-! ### Entities in another order -/

section

variable {es fs : List Entity} (h : es.Perm fs)

include h

theorem isDeclared_eq_of_perm : isDeclared es = isDeclared fs := by
  funext n
  rw [Bool.eq_iff_iff, isDeclared, isDeclared, List.contains_iff_mem, List.contains_iff_mem]
  exact (h.map _).mem_iff

/-- A name that is declared once is found at the same entity. -/
theorem filter_name_eq_of_perm (hdistinct : (es.map (·.name)).Nodup) (n : String) :
    es.filter (·.name = n) = fs.filter (·.name = n) := by
  have hperm : (es.filter (·.name = n)).Perm (fs.filter (·.name = n)) := h.filter _
  have hcount : (es.filter (·.name = n)).length ≤ 1 := by
    have hle := List.nodup_iff_count_le_one.1 hdistinct n
    rw [List.count, List.countP_map, List.countP_eq_length_filter] at hle
    refine le_of_eq_of_le (congrArg List.length ?_) hle
    exact List.filter_congr fun e _ => (beq_eq_decide _ _).symm
  cases hes : es.filter (·.name = n) with
  | nil =>
    rw [hes] at hperm
    exact hperm.nil_eq
  | cons e rest =>
    rw [hes, List.length_cons] at hcount
    obtain rfl : rest = [] := List.eq_nil_of_length_eq_zero (by omega)
    rw [hes] at hperm
    exact List.singleton_perm.1 hperm

theorem innerJoins_perm : (innerJoins es).Perm (innerJoins fs) := by
  rw [innerJoins, innerJoins, isDeclared_eq_of_perm h]
  exact h.flatMap_right _

/-- The relations that one name declares come in the same order. -/
theorem filter_innerJoins_of_perm (hdistinct : (es.map (·.name)).Nodup) (n : String) :
    (innerJoins es).filter (·.1 = n) = (innerJoins fs).filter (·.1 = n) := by
  have hjoins : ∀ ds : List Entity, (innerJoins ds).filter (·.1 = n) =
      joins (isDeclared ds) (ds.filter (·.name = n)) :=
    fun ds => (joins_filter_name (isDeclared ds) (fun m => m = n) ds).symm
  rw [hjoins, hjoins, filter_name_eq_of_perm h hdistinct, isDeclared_eq_of_perm h]

/-- Each name has the same side in a pair. -/
theorem find?_sidesOf_perm (hdistinct : (es.map (·.name)).Nodup) (p : String × String)
    (n : String) :
    (sidesOf (innerJoins es) p).find? n = (sidesOf (innerJoins fs) p).find? n := by
  have hsides : ∀ js : List Join,
      ((js.filter (·.pair = p)).map Join.side).filter (·.1 = n) =
        ((js.filter (·.1 = n)).filter (·.pair = p)).map Join.side := by
    intro js
    rw [List.filter_map, List.filter_comm]
    rfl
  rw [sidesOf, sidesOf, Keyed.find?_ofList, Keyed.find?_ofList, hsides, hsides,
    filter_innerJoins_of_perm h hdistinct]

end

/-! ### What an edge shows -/

variable {α : Type}

/-- An edge, its sides apart as a map from names. -/
def Edge.content (d : Edge α) : Edge α × (String → Option Side) :=
  ({ d with sides := [] }, fun n => d.sides.lookup n)

variable [Scalar α] {boxes : Keyed String (Box α)}

/-- The content of the edge of a pair depends on which sides there are and not on their
order. -/
theorem content_edge?_congr (p : String × String) {sides others : Keyed String Side}
    (h : ∀ n, sides.find? n = others.find? n) :
    (Link.edge? boxes ⟨p.1, p.2, sides⟩).map Edge.content =
      (Link.edge? boxes ⟨p.1, p.2, others⟩).map Edge.content := by
  have hlookup : (fun n => sides.entries.lookup n) = fun n => others.entries.lookup n := by
    funext n
    rw [Keyed.lookup_entries, Keyed.lookup_entries, h]
  unfold Link.edge?
  cases boxes.find? p.1 with
  | none => rfl
  | some a =>
    cases boxes.find? p.2 with
    | none => rfl
    | some b =>
      simp only [Option.bind_eq_bind, Option.bind_some, Option.pure_def, Option.map_some,
        Edge.content, hlookup, h]

/-! ### Routes -/

section

variable {schema other : Option Schema} {v : View α}
  (hperm : (shownEntities schema v).Perm (shownEntities other v))
  (hboxes : ∀ n ∈ (shownEntities schema v).map (·.name), n ∈ v.boxes.keys)

include hperm

/-- Every entity has the same stubs. -/
theorem stubs_route_perm : (route schema v).stubs.Perm (route other v).stubs := by
  have hshown := isDeclared_eq_of_perm hperm
  show ((shownEntities schema v).flatMap (entityStubs v.boxes (isDeclared _))).Perm
    ((shownEntities other v).flatMap (entityStubs v.boxes (isDeclared _)))
  rw [hshown]
  exact hperm.flatMap_right _

include hboxes

/-- Every pair has the same edge, its sides taken as a map. -/
theorem edges_route_perm (hcolons : ∀ n ∈ (shownEntities schema v).map (·.name), ':' ∉ n.toList)
    (hdistinct : ((shownEntities schema v).map (·.name)).Nodup) :
    ((route schema v).edges.map Edge.content).Perm ((route other v).edges.map Edge.content) := by
  have hmem : ∀ n, n ∈ (shownEntities other v).map (·.name) →
      n ∈ (shownEntities schema v).map (·.name) := fun n => (hperm.map _).mem_iff.2
  have hpairs := eraseDups_perm ((innerJoins_perm hperm).map Join.pair)
  rw [edges_route hboxes hcolons,
    edges_route (fun n hn => hboxes n (hmem n hn)) fun n hn => hcolons n (hmem n hn),
    List.map_filterMap, List.map_filterMap]
  have hcontent : ∀ p, (Link.edge? v.boxes
      ⟨p.1, p.2, sidesOf (innerJoins (shownEntities schema v)) p⟩).map Edge.content =
        (Link.edge? v.boxes
          ⟨p.1, p.2, sidesOf (innerJoins (shownEntities other v)) p⟩).map Edge.content :=
    fun p => content_edge?_congr p (find?_sidesOf_perm hperm hdistinct p)
  simp only [hcontent]
  exact hpairs.filterMap _

end

/-- **The order of declarations does not matter to routing.** Drafts of distinct names that
are words, resolved in whatever order, give the same edges, sides taken as a map from
names, and the same stubs in the same slots. -/
theorem Schema.route_ofEntities_perm {drafts others : List Entity} (hperm : drafts.Perm others)
    (hdistinct : (drafts.map (·.name)).Nodup)
    (hwords : ∀ d ∈ drafts, ∀ c ∈ d.name.toList, Text.isWord c = true) (v : View α)
    (hboxes : ∀ d ∈ drafts, d.name ∈ v.boxes.keys) :
    ((route (some (ofEntities drafts)) v).edges.map Edge.content).Perm
        ((route (some (ofEntities others)) v).edges.map Edge.content) ∧
      (route (some (ofEntities drafts)) v).stubs.Perm
        (route (some (ofEntities others)) v).stubs := by
  have hresolved : (resolveAll drafts).Perm (resolveAll others) := by
    rw [resolveAll_eq_of_perm hperm]
    exact hperm.map _
  have hshown : (shownEntities (some (ofEntities drafts)) v).Perm
      (shownEntities (some (ofEntities others)) v) := hresolved.filter _
  have hnames : ((shownEntities (some (ofEntities drafts)) v).map (·.name)).Sublist
      (drafts.map (·.name)) := by
    rw [← resolveAll_names drafts]
    exact List.filter_sublist.map _
  have hdraft : ∀ n ∈ (shownEntities (some (ofEntities drafts)) v).map (·.name),
      ∃ d ∈ drafts, d.name = n := fun n hn => List.mem_map.1 (hnames.subset hn)
  refine ⟨edges_route_perm hshown (fun n hn => ?_) (fun n hn => ?_) (hdistinct.sublist hnames),
    stubs_route_perm hshown⟩
  · obtain ⟨d, hd, rfl⟩ := hdraft n hn
    exact hboxes d hd
  · obtain ⟨d, hd, rfl⟩ := hdraft n hn
    exact fun hc => absurd (hwords d hd ':' hc) (by decide)

/-- Two entities that point to each other and to one that is not shown: the other end of
the pair is met first, and the label is the same. -/
theorem Schema.route_ofEntities_perm_mutual :
    let a : Entity :=
      ⟨"A", [⟨"bs", "B[]", [], "bs B[]", false⟩, ⟨"c", "C", [], "c C", false⟩], [], []⟩
    let b : Entity := ⟨"B", [⟨"a", "A?", [], "a A?", false⟩], [], []⟩
    let c : Entity := ⟨"C", [], [], []⟩
    let box : Box Float := ⟨0.0, 0.0, 240.0, 80.0⟩
    let v := View.selectAll (.ofBoxes (.ofList [("A", box), ("B", box), ("C", box)])) ["A", "B"]
    let ρ := route (some (ofEntities [a, b, c])) v
    let σ := route (some (ofEntities [b, c, a])) v
    [a, b, c].Perm [b, c, a] ∧ ([a, b, c].map (·.name)).Nodup ∧
      (∀ d ∈ [a, b, c], ∀ x ∈ d.name.toList, Text.isWord x = true) ∧
      (∀ d ∈ [a, b, c], d.name ∈ v.boxes.keys) ∧
      (ρ.edges.map Edge.content).Perm (σ.edges.map Edge.content) ∧ ρ.stubs.Perm σ.stubs ∧
      ρ.edges.map (·.label) = ["1:N (optional)"] ∧ σ.edges.map (·.label) = ["1:N (optional)"] ∧
      ρ.edges.map (·.sides.map Prod.fst) = [["A", "B"]] ∧
      σ.edges.map (·.sides.map Prod.fst) = [["B", "A"]] := by
  intro a b c box v ρ σ
  have hperm : [a, b, c].Perm [b, c, a] := by decide
  have hdistinct : ([a, b, c].map (·.name)).Nodup := by decide
  have hwords : ∀ d ∈ [a, b, c], ∀ x ∈ d.name.toList, Text.isWord x = true := by
    simp only [← List.all_eq_true]
    decide
  have hboxes : ∀ d ∈ [a, b, c], d.name ∈ v.boxes.keys := by decide
  obtain ⟨hedges, hstubs⟩ := route_ofEntities_perm hperm hdistinct hwords v hboxes
  refine ⟨hperm, hdistinct, hwords, hboxes, hedges, hstubs, ?_, ?_, ?_, ?_⟩
  all_goals decide +kernel

end SchemaDiagram
