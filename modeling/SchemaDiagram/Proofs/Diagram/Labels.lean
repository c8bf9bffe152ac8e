/-
# What the label of an edge tells

A label is made of what the two ends of its edge say. Of several relations that
entities of one name declare to one target only the last is kept
(`find?_sidesOf`), so the label tells whether the relations declared last are
lists or optional, and nothing of the ones before them; the edge that joins a
name to itself has one end, which is counted twice.

Key definitions: `relationsTo`, `lastRelation`, `endsText`, `Edge.Tells`.
Key theorems: `orderedPair_inj`, `find?_sidesOf`, `label_route`,
`Schema.labels_route_parse`.
-/
import SchemaDiagram.Proofs.Diagram.Routing

namespace SchemaDiagram

/-! ### The wording -/

/-- The label of two ends, each a list or not, one of them optional or none. -/
def endsText (many₁ many₂ optional : Bool) : String :=
  let kind := if many₁ && many₂ then "N:M" else if many₁ || many₂ then "1:N" else "1:1"
  if optional then kind ++ " (optional)" else kind

theorem cardinality_eq_endsText (a b : Option Side) :
    cardinality a b = endsText (a.any (·.isList)) (b.any (·.isList))
      (a.any (·.isOptional) || b.any (·.isOptional)) :=
  rfl

theorem manyToMany_prefix_endsText : ∀ many₁ many₂ optional : Bool,
    "N:M".toList <+: (endsText many₁ many₂ optional).toList ↔ many₁ = true ∧ many₂ = true := by
  decide

theorem oneToMany_prefix_endsText : ∀ many₁ many₂ optional : Bool,
    "1:N".toList <+: (endsText many₁ many₂ optional).toList ↔ many₁ ≠ many₂ := by
  decide

theorem optional_suffix_endsText : ∀ many₁ many₂ optional : Bool,
    " (optional)".toList <:+ (endsText many₁ many₂ optional).toList ↔ optional = true := by
  decide

namespace Edge

variable {α : Type}

/-- The label tells of two lists. -/
def IsManyToMany (d : Edge α) : Prop := "N:M".toList <+: d.label.toList

/-- The label tells of one list. -/
def IsOneToMany (d : Edge α) : Prop := "1:N".toList <+: d.label.toList

/-- The label tells of an optional end. -/
def IsOptional (d : Edge α) : Prop := " (optional)".toList <:+ d.label.toList

end Edge

/-! ### The relations of one name to another -/

/-- The relations that entities of the first name declare to the second name. -/
def relationsTo (es : List Entity) (a b : String) : List Relation :=
  (es.filter (·.name = a)).flatMap fun e => e.relations.filter (·.target = b)

/-- The last of them. -/
def lastRelation (es : List Entity) (a b : String) : Option Relation :=
  (relationsTo es a b).getLast?

theorem relationsTo_cons (e : Entity) (es : List Entity) (a b : String) :
    relationsTo (e :: es) a b =
      (if e.name = a then e.relations.filter (·.target = b) else []) ++ relationsTo es a b := by
  by_cases h : e.name = a <;> simp [relationsTo, h]

/-- A name and a pair that it belongs to determine the other name. -/
theorem orderedPair_inj {a b c : String} : orderedPair a b = orderedPair a c ↔ b = c := by
  refine ⟨fun h => ?_, fun h => h ▸ rfl⟩
  rcases orderedPair_cases a b with hb | hb <;> rcases orderedPair_cases a c with hc | hc <;>
    rw [hb, hc] at h <;> obtain ⟨h1, h2⟩ := Prod.mk.inj h
  · exact h2
  · exact h2.trans h1
  · exact h1.trans h2
  · exact h1

theorem orderedPair_of_le {a b : String} (h : a ≤ b) : orderedPair a b = (a, b) :=
  if_neg h

/-- The relations of a pair that come from one of its names point to the other. -/
theorem filter_joins {shown : String → Bool} {b : String} (hb : shown b = true) (es : List Entity)
    (a : String) :
    (joins shown es).filter (fun j => j.1 = a ∧ j.pair = orderedPair a b) =
      (relationsTo es a b).map fun r => (a, r) := by
  induction es with
  | nil => rfl
  | cons e es ih =>
    rw [joins_cons, List.filter_append, ih, relationsTo_cons, List.map_append, List.filter_map,
      List.filter_filter]
    congr 1
    by_cases he : e.name = a
    · subst he
      rw [if_pos rfl]
      congr 1
      refine List.filter_congr fun r _ => ?_
      by_cases hr : r.target = b
      · simp [Join.pair, hr, hb]
      · simp [Join.pair, hr, orderedPair_inj]
    · simp [he]

/-- The side of a name in a pair is that of its last relation to the other name. -/
theorem find?_sidesOf {es : List Entity} {b : String} (hb : b ∈ es.map (·.name)) (a : String) :
    (sidesOf (innerJoins es) (orderedPair a b)).find? a =
      (lastRelation es a b).map .ofRelation := by
  have hshown : isDeclared es b = true := List.contains_iff_mem.2 hb
  have hsides : ((innerJoins es).filter (·.pair = orderedPair a b)).filter
      ((decide <| ·.1 = a) ∘ Join.side) = (relationsTo es a b).map fun r => (a, r) := by
    rw [← filter_joins hshown, List.filter_filter, innerJoins]
    exact List.filter_congr fun j _ => (Bool.decide_and _ _).symm
  rw [sidesOf, Keyed.find?_ofList, List.filter_map, hsides, List.map_map, List.getLast?_map,
    Option.map_map]
  rfl

/-! ### Labels -/

/-- What the label of an edge between entities tells: lists and optional ends among
the relations that its ends declare last. -/
structure Edge.Tells {α : Type} (d : Edge α) (es : List Entity) : Prop where
  manyToMany_iff : d.IsManyToMany ↔
    (lastRelation es d.source d.target).any (·.isList) = true ∧
      (lastRelation es d.target d.source).any (·.isList) = true
  oneToMany_iff : d.IsOneToMany ↔
    (lastRelation es d.source d.target).any (·.isList) ≠
      (lastRelation es d.target d.source).any (·.isList)
  optional_iff : d.IsOptional ↔
    (lastRelation es d.source d.target).any (·.isOptional) = true ∨
      (lastRelation es d.target d.source).any (·.isOptional) = true

variable {α : Type} [Scalar α]

section

variable {schema : Option Schema} {v : View α}
  (hboxes : ∀ n ∈ (shownEntities schema v).map (·.name), n ∈ v.boxes.keys)
  (hcolons : ∀ n ∈ (shownEntities schema v).map (·.name), ':' ∉ n.toList)

include hboxes hcolons

/-- A label is made of the relations that the two ends declare last. -/
theorem label_route {d : Edge α} (hd : d ∈ (route schema v).edges) :
    d.label = cardinality
      ((lastRelation (shownEntities schema v) d.source d.target).map .ofRelation)
      ((lastRelation (shownEntities schema v) d.target d.source).map .ofRelation) := by
  rw [edges_route hboxes hcolons] at hd
  obtain ⟨p, hp, hpd⟩ := List.mem_filterMap.1 hd
  obtain ⟨a, b, -, -, rfl⟩ := Link.edge?_eq_some_iff.1 hpd
  rw [List.mem_eraseDups] at hp
  obtain ⟨hsource, htarget⟩ := names_of_mem_pairs hp
  have hpair : orderedPair p.1 p.2 = p := by
    obtain ⟨j, -, rfl⟩ := List.mem_map.1 hp
    exact orderedPair_of_le (orderedPair_le _ _)
  have hfirst := find?_sidesOf htarget p.1
  have hsecond := find?_sidesOf hsource p.2
  rw [orderedPair_comm p.2, hpair] at hsecond
  rw [hpair] at hfirst
  dsimp only
  rw [hfirst, hsecond]

theorem tells_route {d : Edge α} (hd : d ∈ (route schema v).edges) :
    d.Tells (shownEntities schema v) := by
  have hlabel := label_route hboxes hcolons hd
  rw [cardinality_eq_endsText] at hlabel
  simp only [Option.any_map] at hlabel
  constructor
  · rw [Edge.IsManyToMany, hlabel]
    exact manyToMany_prefix_endsText _ _ _
  · rw [Edge.IsOneToMany, hlabel]
    exact oneToMany_prefix_endsText _ _ _
  · rw [Edge.IsOptional, hlabel, optional_suffix_endsText, Bool.or_eq_true]
    rfl

end

/-! ### Routes of schemas -/

/-- The label tells that the relation is a list, or that it is optional. -/
def Edge.Reflects (d : Edge α) (r : Relation) : Prop :=
  (r.isList = true → d.IsOneToMany ∨ d.IsManyToMany) ∧ (r.isOptional = true → d.IsOptional)

/-- The labels of a route tell what the entities declare last. -/
structure Route.Labels (ρ : Route α) (es : List Entity) : Prop where
  tells : ∀ d ∈ ρ.edges, d.Tells es
  /-- A relation between the entities is reflected by its edge, unless another one to
  the same target is declared after it. -/
  reflects : ∀ e ∈ es, ∀ r ∈ e.relations, r.target ∈ es.map (·.name) →
    lastRelation es e.name r.target = some r →
      ∃ d, ρ.edges.filter (·.ends = orderedPair e.name r.target) = [d] ∧ d.Reflects r
  /-- Two lists are told of only if each end declares one. -/
  lists : ∀ d ∈ ρ.edges, d.IsManyToMany →
    (∃ r ∈ relationsTo es d.source d.target, r.isList = true) ∧
      ∃ r ∈ relationsTo es d.target d.source, r.isList = true

omit [Scalar α] in
/-- An edge reflects the relation that either of its ends declares last. -/
theorem Edge.Tells.reflects {d : Edge α} {es : List Entity} (h : d.Tells es) {a b : String}
    (hends : d.ends = orderedPair a b) {r : Relation} (hr : lastRelation es a b = some r) :
    d.Reflects r := by
  have hlast : lastRelation es d.source d.target = some r ∨
      lastRelation es d.target d.source = some r := by
    rcases orderedPair_cases a b with hp | hp <;> rw [hp] at hends <;>
      obtain ⟨hsource, htarget⟩ := Prod.mk.inj hends
    · rw [hsource, htarget]
      exact .inl hr
    · rw [hsource, htarget]
      exact .inr hr
  refine ⟨fun hlist => ?_, fun hoptional => h.optional_iff.2 ?_⟩
  · rw [h.oneToMany_iff, h.manyToMany_iff]
    rcases hlast with hl | hl <;> rw [hl, Option.any_some, hlist]
    · cases (lastRelation es d.target d.source).any (·.isList) <;> simp
    · cases (lastRelation es d.source d.target).any (·.isList) <;> simp
  · rcases hlast with hl | hl <;> rw [hl]
    · exact .inl hoptional
    · exact .inr hoptional

omit [Scalar α] in
theorem exists_filter_ends {ds : List (Edge α)} {p : String × String}
    (h : (ds.map Edge.ends).count p = 1) : ∃ d, ds.filter (·.ends = p) = [d] := by
  rw [← List.length_eq_one_iff, ← h, List.count, List.countP_map, List.countP_eq_length_filter]
  exact congrArg List.length (List.filter_congr fun d _ => (beq_eq_decide _ _).symm)

theorem exists_of_any_lastRelation {es : List Entity} {a b : String} {p : Relation → Bool}
    (h : (lastRelation es a b).any p = true) : ∃ r ∈ relationsTo es a b, p r = true := by
  obtain ⟨r, hr, hp⟩ := (Option.any_eq_true _ _).1 h
  exact ⟨r, List.mem_of_getLast? hr, hp⟩

/-- **A label reflects what is declared last**, whatever the text and whatever is
selected: lists and optional ends among the relations that its two ends declare
last, and nothing else. -/
theorem Schema.labels_route_parse (source : String) (v : View α)
    (h : ∀ n ∈ (parse source).names, n ∈ v.boxes.keys) :
    (route (some (parse source)) v).Labels (shownEntities (some (parse source)) v) := by
  have hboxes : ∀ n ∈ (shownEntities (some (parse source)) v).map (·.name), n ∈ v.boxes.keys :=
    fun n hn => h n (names_shown hn).1
  have hcolons : ∀ n ∈ (shownEntities (some (parse source)) v).map (·.name), ':' ∉ n.toList :=
    fun n hn => colon_not_mem_of_mem_names (names_shown hn).1
  have htells : ∀ d ∈ (route (some (parse source)) v).edges,
      d.Tells (shownEntities (some (parse source)) v) := fun d => tells_route hboxes hcolons
  refine ⟨htells, fun e he r hr ht hlast => ?_, fun d hd hmany => ?_⟩
  · have hcount := (draws_route hboxes hcolons).count_ends e he r hr ht
    obtain ⟨d, hd⟩ := exists_filter_ends hcount
    have hmem := List.mem_singleton_self d
    rw [← hd, List.mem_filter] at hmem
    exact ⟨d, hd, (htells d hmem.1).reflects (of_decide_eq_true hmem.2) hlast⟩
  · obtain ⟨hsource, htarget⟩ := (htells d hd).manyToMany_iff.1 hmany
    exact ⟨exists_of_any_lastRelation hsource, exists_of_any_lastRelation htarget⟩

/-- A list at one end and an optional relation at the other. -/
theorem Schema.labels_route_mutual :
    let source := "model A \x7b\n  bs B[]\n\x7d\nmodel B \x7b\n  a A?\n\x7d"
    let box : Box Float := ⟨0.0, 0.0, 240.0, 80.0⟩
    let v := View.selectAll (.ofBoxes (.ofList [("A", box), ("B", box)])) ["A", "B"]
    (∀ n ∈ (parse source).names, n ∈ v.boxes.keys) ∧
      (route (some (parse source)) v).Labels (shownEntities (some (parse source)) v) ∧
      (route (some (parse source)) v).edges.map (·.label) = ["1:N (optional)"] :=
  ⟨by decide, labels_route_parse _ _ (by decide), by decide⟩

/-- A list is not reflected when a single relation to the same target follows, and
one list from a name to itself is told of as two. -/
theorem Schema.labels_route_forget :
    let source := "model A \x7b\n  bs B[]\n  b B\n  as A[]\n\x7d\nmodel B \x7b\n\x7d"
    let box : Box Float := ⟨0.0, 0.0, 240.0, 80.0⟩
    let v := View.selectAll (.ofBoxes (.ofList [("A", box), ("B", box)])) ["A", "B"]
    innerJoins (shownEntities (some (parse source)) v) =
        [("A", ⟨"bs", "B", "B[]"⟩), ("A", ⟨"b", "B", "B"⟩), ("A", ⟨"as", "A", "A[]"⟩)] ∧
      (route (some (parse source)) v).edges.map (fun d => (d.ends, d.label)) =
        [(("A", "B"), "1:1"), (("A", "A"), "N:M")] :=
  ⟨by decide +kernel, by decide +kernel⟩

end SchemaDiagram
