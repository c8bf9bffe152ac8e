/-
# Filters on record

An entity whose filter is not on record has the initial one, and a scene puts the
filters of what it draws on record as they are (`keepFilters_eq`). So a record that has
more initial filters than another (`Filters.Pads`) says the same, and goes on to do so
when filters are put on record in both, or in the fuller one only.

Key definitions: `View.refilter`, `Filters.record`, `Filters.Pads`, `drawnNames`.
Key theorems: `keepFilters_eq`, `Filters.mem_keys_recordAll`, `Filters.Pads.put`,
`Filters.Pads.recordAll`, `Filters.Pads.recordAll_left`, `scene_refilter`.
-/
import SchemaDiagram.Diagram.Scene
import SchemaDiagram.Proofs.Keyed

namespace SchemaDiagram

/-- The filters on record. -/
abbrev Filters := Keyed String FieldFilter

namespace Filters

/-- The filter of an entity. -/
def of (F : Filters) (n : String) : FieldFilter :=
  (F.find? n).getD .initial

/-- The filters with the one of an entity on record. -/
def record (F : Filters) (n : String) : Filters :=
  F.put n (of F n)

/-- The filters with those of some entities on record. -/
def recordAll (F : Filters) (ns : List String) : Filters :=
  ns.foldl record F

/-- The first record is the second with initial filters of some of the names added. -/
def Pads (names : List String) (F G : Filters) : Prop :=
  ∀ n, F.find? n = G.find? n ∨ n ∈ names ∧ F.find? n = some .initial ∧ G.find? n = none

theorem mem_keys_recordAll {F : Filters} {ns : List String} {n : String} :
    n ∈ (recordAll F ns).keys ↔ n ∈ ns ∨ n ∈ F.keys := by
  induction ns generalizing F with
  | nil => simp [recordAll]
  | cons m ns ih =>
    show n ∈ (recordAll (record F m) ns).keys ↔ _
    rw [ih, record, Keyed.mem_keys_put, List.mem_cons, or_left_comm, or_assoc]

namespace Pads

variable {names : List String} {F G : Filters} {n : String}

theorem refl (names : List String) (F : Filters) : Pads names F F := fun _ => .inl rfl

theorem mono {more : List String} (h : Pads names F G) (hn : names ⊆ more) : Pads more F G :=
  fun n => (h n).imp_right (.imp_left (hn ·))

theorem of_eq (h : Pads names F G) (n : String) : of F n = of G n := by
  rcases h n with hn | ⟨-, hF, hG⟩
  · rw [of, hn, of]
  · rw [of, hF, of, hG]
    rfl

theorem put (h : Pads names F G) (n : String) (f : FieldFilter) :
    Pads names (F.put n f) (G.put n f) := by
  intro m
  by_cases hm : m = n
  · rw [hm, Keyed.find?_put_self, Keyed.find?_put_self]
    exact .inl rfl
  · rw [Keyed.find?_put_of_ne f hm, Keyed.find?_put_of_ne f hm]
    exact h m

theorem recordAll (h : Pads names F G) (ns : List String) :
    Pads names (recordAll F ns) (recordAll G ns) := by
  induction ns generalizing F G with
  | nil => exact h
  | cons n ns ih =>
    have hrecord : Pads names (record F n) (record G n) := by
      rw [record, record, h.of_eq n]
      exact h.put n _
    exact ih hrecord

/-- What is put on record in the first alone is there in the second or initial. -/
theorem record_left (h : Pads names F G) (hn : n ∈ names) : Pads names (record F n) G := by
  intro m
  by_cases hm : m = n
  · rw [hm, record, Keyed.find?_put_self, h.of_eq n]
    cases hG : G.find? n with
    | none => exact .inr ⟨hn, by rw [of, hG]; rfl, rfl⟩
    | some g => exact .inl (by rw [of, hG]; rfl)
  · rw [record, Keyed.find?_put_of_ne _ hm]
    exact h m

theorem recordAll_left (h : Pads names F G) {ns : List String} (hns : ns ⊆ names) :
    Pads names (Filters.recordAll F ns) G := by
  induction ns generalizing F with
  | nil => exact h
  | cons n ns ih =>
    obtain ⟨hn, hns⟩ := List.cons_subset.1 hns
    exact ih (h.record_left hn) hns

end Pads
end Filters

variable {α : Type}

/-- The view with other filters. -/
def View.refilter (v : View α) (F : Filters) : View α :=
  { v with filters := F }

/-- The names of the selected entities that have a box. -/
def drawnNames (schema : Option Schema) (v : View α) : List String :=
  ((shownEntities schema v).filter fun e => v.boxes.has e.name).map (·.name)

theorem drawnNames_subset (schema : Option Schema) (v : View α) :
    drawnNames schema v ⊆ (shownEntities schema v).map (·.name) :=
  List.map_subset _ (List.filter_subset_self _)

theorem mem_keys_of_mem_drawnNames {schema : Option Schema} {v : View α} {n : String}
    (h : n ∈ drawnNames schema v) : n ∈ v.boxes.keys := by
  obtain ⟨e, he, rfl⟩ := List.mem_map.1 h
  exact (Keyed.isSome_find?_iff _ _).1 (List.mem_filter.1 he).2

/-- A scene puts the filters of what it draws on record, and nothing else. -/
theorem keepFilters_eq (schema : Option Schema) (v : View α) :
    keepFilters schema v = v.refilter (Filters.recordAll v.filters (drawnNames schema v)) := by
  rw [Filters.recordAll, drawnNames, List.foldl_map, List.foldl_filter, keepFilters]
  refine List.foldl_hom v.refilter fun F e => ?_
  split <;> rfl

/-- Records that say the same give the same scene. -/
theorem scene_refilter [Scalar α] {names : List String} {F G : Filters} (h : F.Pads names G)
    (schema : Option Schema) (v : View α) :
    scene schema (v.refilter F) = scene schema (v.refilter G) := by
  have hnode : node? (v.refilter F) = node? (v.refilter G) := by
    funext e
    have hof : (v.refilter F).filterOf e.name = (v.refilter G).filterOf e.name := h.of_eq e.name
    rw [node?, hof, node?]
    rfl
  rw [scene, hnode, scene]
  rfl

end SchemaDiagram
