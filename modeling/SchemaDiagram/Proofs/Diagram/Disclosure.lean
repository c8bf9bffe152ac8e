/-
# Revealing hidden entities

Revealing a stub selects its target, and the route of the larger selection has
other stubs. In whatever order stubs are revealed, this ends after the same
number of reveals and with the same selection: the names that are related to a
selected one, directly or through others. It rests on one fact about routes
(`Schema.mem_targets_parse`): the stubs lead to exactly the names that are not
selected and to which a selected name is related.

Key definitions: `Schema.Relates`, `View.Covers`, `View.Reaches`, `Offers`,
`Exhausts`, `View.Discloses`.
Key theorems: `Schema.mem_targets_parse`, `View.Covers.exists_edge`, `names_revealAll`,
`Schema.discloses_parse`.
-/
import Mathlib.Data.List.Perm.Subperm
import Mathlib.Logic.Relation
import SchemaDiagram.Proofs.Diagram.Routing

namespace SchemaDiagram

/-- An entity of the first name declares a relation to the second name. -/
def Schema.Relates (m : Schema) (a b : String) : Prop :=
  ∃ e ∈ m.entities, e.name = a ∧ ∃ r ∈ e.relations, r.target = b

theorem Schema.mem_names_of_relates {source a b : String} (h : (parse source).Relates a b) :
    b ∈ (parse source).names := by
  obtain ⟨e, he, -, r, hr, rfl⟩ := h
  exact target_mem_names he hr

variable {α : Type}

namespace View

/-- Every name has a box and nothing else is selected. -/
structure Covers (names : List String) (v : View α) : Prop where
  boxes : ∀ n ∈ names, n ∈ v.boxes.keys
  selected : ∀ n ∈ v.selected.names, n ∈ names

theorem Covers.boxes_shown {source : String} {v : View α} (h : v.Covers (Schema.parse source).names) :
    ∀ n ∈ (shownEntities (some (Schema.parse source)) v).map (·.name), n ∈ v.boxes.keys :=
  fun n hn => h.boxes n (Schema.names_shown hn).1

/-- The name is selected or related to a selected one, directly or through others. -/
def Reaches (m : Schema) (v : View α) (n : String) : Prop :=
  ∃ k ∈ v.selected.names, Relation.ReflTransGen m.Relates k n

/-- The names that are not selected. -/
def hidden (names : List String) (v : View α) : List String :=
  names.eraseDups.filter fun n => !v.selected.has n

theorem mem_hidden {names : List String} {v : View α} {n : String} :
    n ∈ v.hidden names ↔ n ∈ names ∧ n ∉ v.selected.names := by
  simp [hidden, Selection.has]

variable [Scalar α] {v : View α} {s : Stub α}

/-! ### One reveal -/

theorem selected_reveal (v : View α) (s : Stub α) :
    (v.reveal s).selected = v.selected.insert s.target := by
  simp only [reveal]
  split <;> rfl

theorem keys_reveal (v : View α) (s : Stub α) : (v.reveal s).boxes.keys = v.boxes.keys := by
  simp only [reveal]
  cases hb : (v.select s.target).boxes.find? s.target with
  | none => rfl
  | some b =>
    have hkey : s.target ∈ v.boxes.keys := Keyed.mem_keys_of_find? hb
    exact (Keyed.keys_put _ _ _).trans (if_pos hkey)

theorem names_reveal (h : s.target ∉ v.selected.names) :
    (v.reveal s).selected.names = s.target :: v.selected.names := by
  rw [selected_reveal, Selection.insert, dif_neg h]

theorem Covers.reveal {names : List String} (h : v.Covers names) (hs : s.target ∈ names) :
    (v.reveal s).Covers names where
  boxes n hn := by
    rw [keys_reveal]
    exact h.boxes n hn
  selected n hn := by
    rw [selected_reveal] at hn
    rcases Selection.mem_insert.1 hn with rfl | hn
    · exact hs
    · exact h.selected n hn

/-- The view after some stubs have been revealed. -/
def revealAll (v : View α) (ss : List (Stub α)) : View α :=
  ss.foldl reveal v

theorem revealAll_concat (v : View α) (ss : List (Stub α)) (s : Stub α) :
    v.revealAll (ss ++ [s]) = (v.revealAll ss).reveal s :=
  List.foldl_concat _ _ _ _

end View

/-! ### Where relations lead -/

section

variable [Scalar α] {v : View α}

/-- The stubs of shown entities with boxes lead to the targets that are not shown. -/
theorem mem_targets_route {schema : Option Schema} {b : String}
    (h : ∀ n ∈ (shownEntities schema v).map (·.name), n ∈ v.boxes.keys) :
    b ∈ (route schema v).stubs.map (·.target) ↔
      ∃ e ∈ shownEntities schema v, ∃ r ∈ e.relations,
        b ∉ (shownEntities schema v).map (·.name) ∧ r.target = b := by
  have htargets : (route schema v).stubs.map (·.target) =
      (shownEntities schema v).flatMap fun e =>
        (hiddenRelations (isDeclared (shownEntities schema v)) e).map (·.target) :=
    map_stubs_route_relations h (fun _ r => r.target) fun _ _ _ _ => rfl
  rw [htargets, List.mem_flatMap]
  refine exists_congr fun e => and_congr_right fun _ => ?_
  rw [List.mem_map]
  refine exists_congr fun r => ?_
  rw [hiddenRelations, List.mem_filter, and_assoc]
  refine and_congr_right fun _ => and_congr_left fun ht => ?_
  simp [isDeclared, ht]

end

/-- The stubs lead to exactly the hidden names to which a selected name is related. -/
theorem Schema.mem_targets_parse {source : String} [Scalar α] {v : View α}
    (h : v.Covers (parse source).names) {b : String} :
    b ∈ (route (some (parse source)) v).stubs.map (·.target) ↔
      b ∉ v.selected.names ∧ ∃ a ∈ v.selected.names, (parse source).Relates a b := by
  have hname : b ∈ (parse source).names →
      (b ∈ (shownEntities (some (parse source)) v).map (·.name) ↔ b ∈ v.selected.names) :=
    fun hb => by rw [mem_names_shown, and_iff_right hb]
  rw [mem_targets_route h.boxes_shown]
  constructor
  · rintro ⟨e, he, r, hr, hb, rfl⟩
    obtain ⟨hmem, hsel⟩ := mem_shown.1 he
    have hrel : (parse source).Relates e.name r.target := ⟨e, hmem, rfl, r, hr, rfl⟩
    rw [hname (mem_names_of_relates hrel)] at hb
    exact ⟨hb, e.name, hsel, hrel⟩
  · rintro ⟨hb, a, ha, hrel⟩
    rw [← hname (mem_names_of_relates hrel)] at hb
    obtain ⟨e, he, rfl, r, hr, hrb⟩ := hrel
    exact ⟨e, mem_shown.2 ⟨he, ha⟩, r, hr, hb, hrb⟩

/-- A relation between selected names is drawn as a side of the edge that joins them. -/
theorem View.Covers.exists_edge {source : String} [Scalar α] {v : View α}
    (h : v.Covers (Schema.parse source).names) {e : Entity}
    (he : e ∈ (Schema.parse source).entities) (hsource : e.name ∈ v.selected.names)
    {r : Relation} (hr : r ∈ e.relations) (htarget : r.target ∈ v.selected.names) :
    ∃ d ∈ (route (some (Schema.parse source)) v).edges,
      d.ends = orderedPair e.name r.target ∧ e.name ∈ d.sides.map (·.1) := by
  have hdraws := draws_route h.boxes_shown Schema.colons_shown
  refine hdraws.exists_edge (Schema.mem_shown.2 ⟨he, hsource⟩) hr ?_
  exact Schema.mem_names_shown.2 ⟨h.selected _ htarget, htarget⟩

/-! ### Sequences of reveals -/

section

variable [Scalar α]

/-- Each of the stubs is on the route when its turn comes. -/
def Offers (m : Schema) (v : View α) : List (Stub α) → Prop
  | [] => True
  | s :: ss => s ∈ (route (some m) v).stubs ∧ Offers m (v.reveal s) ss

/-- The stubs can be revealed one after the other, and then no other one can. -/
def Exhausts (m : Schema) (v : View α) (ss : List (Stub α)) : Prop :=
  Offers m v ss ∧ ∀ s, ¬ Offers m v (ss ++ [s])

theorem offers_concat {m : Schema} {v : View α} {ss : List (Stub α)} {s : Stub α} :
    Offers m v (ss ++ [s]) ↔
      Offers m v ss ∧ s ∈ (route (some m) (v.revealAll ss)).stubs := by
  induction ss generalizing v with
  | nil => simp [Offers, View.revealAll]
  | cons t ss ih => rw [List.cons_append, Offers, ih, Offers, and_assoc]; rfl

theorem exhausts_iff {m : Schema} {v : View α} {ss : List (Stub α)} :
    Exhausts m v ss ↔ Offers m v ss ∧ (route (some m) (v.revealAll ss)).stubs = [] := by
  refine and_congr_right fun h => ?_
  simp only [offers_concat, h, true_and]
  exact List.eq_nil_iff_forall_not_mem.symm

variable {source : String} {v : View α} {ss : List (Stub α)}

theorem View.Covers.not_mem_of_stub (h : v.Covers (Schema.parse source).names) {s : Stub α}
    (hs : s ∈ (route (some (Schema.parse source)) v).stubs) : s.target ∉ v.selected.names :=
  ((Schema.mem_targets_parse h).1 (List.mem_map_of_mem hs)).1

theorem View.Covers.revealAll (h : v.Covers (Schema.parse source).names)
    (hss : Offers (Schema.parse source) v ss) :
    (v.revealAll ss).Covers (Schema.parse source).names := by
  induction ss generalizing v with
  | nil => exact h
  | cons s ss ih => exact ih (h.reveal (Schema.target_mem_of_mem_stubs hss.1)) hss.2

/-- The targets of the stubs are selected on top of what was. -/
theorem names_revealAll (h : v.Covers (Schema.parse source).names)
    (hss : Offers (Schema.parse source) v ss) :
    (v.revealAll ss).selected.names = (ss.map (·.target)).reverse ++ v.selected.names := by
  induction ss generalizing v with
  | nil => rfl
  | cons s ss ih =>
    have hs := View.names_reveal (h.not_mem_of_stub hss.1)
    rw [List.map_cons, List.reverse_cons, List.append_assoc, List.singleton_append, ← hs]
    exact ih (h.reveal (Schema.target_mem_of_mem_stubs hss.1)) hss.2

/-- The targets are distinct hidden names, so there are no more of them than of these. -/
theorem length_le_of_offers (h : v.Covers (Schema.parse source).names)
    (hss : Offers (Schema.parse source) v ss) :
    ss.length ≤ (v.hidden (Schema.parse source).names).length := by
  have hnames := names_revealAll h hss
  have hdistinct := (v.revealAll ss).selected.distinct
  rw [hnames, List.nodup_append'] at hdistinct
  obtain ⟨hnodup, -, hdisjoint⟩ := hdistinct
  have hsub : (ss.map (·.target)).reverse ⊆ v.hidden (Schema.parse source).names := by
    intro n hn
    have hmem : n ∈ (v.revealAll ss).selected.names := by
      rw [hnames]
      exact List.mem_append_left _ hn
    exact View.mem_hidden.2 ⟨(h.revealAll hss).selected n hmem, fun hv => hdisjoint hn hv⟩
  have hle := (hnodup.subperm hsub).length_le
  rwa [List.length_reverse, List.length_map] at hle

/-- Only what is related to a selected name is selected. -/
theorem reaches_of_mem_revealAll (h : v.Covers (Schema.parse source).names)
    (hss : Offers (Schema.parse source) v ss) :
    ∀ n ∈ (v.revealAll ss).selected.names, v.Reaches (Schema.parse source) n := by
  induction ss using List.reverseRecOn with
  | nil => exact fun n hn => ⟨n, hn, .refl⟩
  | append_singleton ss s ih =>
    obtain ⟨hoffers, hs⟩ := offers_concat.1 hss
    intro n hn
    rw [View.revealAll_concat, View.names_reveal ((h.revealAll hoffers).not_mem_of_stub hs)] at hn
    rcases List.mem_cons.1 hn with rfl | hn
    · obtain ⟨-, a, ha, hrel⟩ :=
        (Schema.mem_targets_parse (h.revealAll hoffers)).1 (List.mem_map_of_mem hs)
      obtain ⟨k, hk, hka⟩ := ih hoffers a ha
      exact ⟨k, hk, hka.tail hrel⟩
    · exact ih hoffers n hn

/-- When no stub is left, everything that is related to a selected name is selected. -/
theorem mem_of_reaches (h : v.Covers (Schema.parse source).names)
    (hstubs : (route (some (Schema.parse source)) v).stubs = []) {n : String}
    (hn : v.Reaches (Schema.parse source) n) : n ∈ v.selected.names := by
  obtain ⟨k, hk, hkn⟩ := hn
  induction hkn with
  | refl => exact hk
  | @tail a b _ hrel ih =>
    by_contra hb
    have hmem := (Schema.mem_targets_parse h).2 ⟨hb, a, ih, hrel⟩
    rw [hstubs] at hmem
    cases hmem

/-- When no stub is left, exactly what is related to a selected name at the start is
selected. -/
theorem mem_revealAll_iff (h : v.Covers (Schema.parse source).names)
    (hss : Exhausts (Schema.parse source) v ss) {n : String} :
    n ∈ (v.revealAll ss).selected.names ↔ v.Reaches (Schema.parse source) n := by
  obtain ⟨hoffers, hstubs⟩ := exhausts_iff.1 hss
  refine ⟨reaches_of_mem_revealAll h hoffers n, fun hn => ?_⟩
  refine mem_of_reaches (h.revealAll hoffers) hstubs ?_
  obtain ⟨k, hk, hkn⟩ := hn
  refine ⟨k, ?_, hkn⟩
  rw [names_revealAll h hoffers]
  exact List.mem_append_right _ hk

/-- As long as stubs are left, one more can be revealed; this cannot go on for ever. -/
theorem exists_exhausts (h : v.Covers (Schema.parse source).names) :
    ∃ ss : List (Stub α), Exhausts (Schema.parse source) v ss := by
  by_contra hnone
  have hlong : ∀ k, ∃ ss : List (Stub α), Offers (Schema.parse source) v ss ∧ ss.length = k := by
    intro k
    induction k with
    | zero => exact ⟨[], trivial, rfl⟩
    | succ k ih =>
      obtain ⟨ss, hss, hlen⟩ := ih
      have hmore : ∃ s, Offers (Schema.parse source) v (ss ++ [s]) := by
        by_contra hend
        exact hnone ⟨ss, hss, not_exists.1 hend⟩
      obtain ⟨s, hs⟩ := hmore
      exact ⟨ss ++ [s], hs, by rw [List.length_append, hlen]; rfl⟩
  obtain ⟨ss, hss, hlen⟩ := hlong ((v.hidden (Schema.parse source).names).length + 1)
  have hle := length_le_of_offers h hss
  omega

end

/-- What can be said of revealing stubs, whichever are chosen. -/
structure View.Discloses [Scalar α] (m : Schema) (v : View α) : Prop where
  /-- Each reveal selects one more name. -/
  one_more : ∀ ss s, Offers m v (ss ++ [s]) →
    s.target ∉ (v.revealAll ss).selected.names ∧
      ∀ n, n ∈ (v.revealAll (ss ++ [s])).selected.names ↔
        n = s.target ∨ n ∈ (v.revealAll ss).selected.names
  /-- There are no more reveals than hidden names. -/
  length_le : ∀ ss, Offers m v ss → ss.length ≤ (v.hidden m.names).length
  exists_exhausts : ∃ ss, Exhausts m v ss
  /-- The order of the reveals does not change their number. -/
  length_eq : ∀ ss ts, Exhausts m v ss → Exhausts m v ts → ss.length = ts.length
  /-- At the end no stub is left, and what was related to a selected name is selected. -/
  exhausted : ∀ ss, Exhausts m v ss →
    (route (some m) (v.revealAll ss)).stubs = [] ∧
      ∀ n, n ∈ (v.revealAll ss).selected.names ↔ v.Reaches m n

/-- **Revealing ends, and the order does not matter**, whatever the text and whatever is
selected at the start. -/
theorem Schema.discloses_parse [Scalar α] (source : String) (v : View α)
    (h : v.Covers (parse source).names) : v.Discloses (parse source) where
  one_more ss s hss := by
    obtain ⟨hoffers, hs⟩ := offers_concat.1 hss
    have hnew := (h.revealAll hoffers).not_mem_of_stub hs
    refine ⟨hnew, fun n => ?_⟩
    rw [View.revealAll_concat, View.names_reveal hnew, List.mem_cons]
  length_le _ hss := length_le_of_offers h hss
  exists_exhausts := SchemaDiagram.exists_exhausts h
  length_eq ss ts hss hts := by
    have hperm : (v.revealAll ss).selected.names.Perm (v.revealAll ts).selected.names :=
      (List.perm_ext_iff_of_nodup (v.revealAll ss).selected.distinct
        (v.revealAll ts).selected.distinct).2 fun n => by
          rw [mem_revealAll_iff h hss, mem_revealAll_iff h hts]
    have hlen := hperm.length_eq
    rw [names_revealAll h hss.1, names_revealAll h hts.1] at hlen
    simpa using hlen
  exhausted _ hss := ⟨(exhausts_iff.1 hss).2, fun _ => mem_revealAll_iff h hss⟩

/-- Three entities in a circle, the first of which is selected. -/
theorem Schema.discloses_circle :
    let source := "model A \x7b\n  b B[]\n\x7d\nmodel B \x7b\n  c C?\n  b B\n\x7d\nmodel C \x7b\n  a A\n\x7d"
    let box : Box Float := ⟨0.0, 0.0, 240.0, 80.0⟩
    let v := View.selectAll (.ofBoxes (.ofList [("A", box), ("B", box), ("C", box)])) ["A"]
    v.Covers (parse source).names ∧ v.Discloses (parse source) := by
  intro source box v
  have h : v.Covers (parse source).names := ⟨by decide, by decide⟩
  exact ⟨h, discloses_parse source v h⟩

end SchemaDiagram
