/-
# Views that fit a schema

A view is sound for the names of a schema when exactly these names have boxes,
nothing else is selected or filtered, and the camera is at a scale that the
settings allow. Everything that can be done to a view keeps it sound, as long as
it is done to names of the schema.

Key definitions: `View.Sound`.
Key theorems: `View.Sound.place`, `View.Sound.reveal`, `View.Sound.keepFilters`.
-/
import SchemaDiagram.Proofs.Diagram.Filters
import SchemaDiagram.Proofs.Settings.Range

namespace SchemaDiagram
namespace View

variable {α : Type} [Scalar α]

/-- The view fits the names and keeps to the rule. -/
structure Sound (rule : Settings α) (names : List String) (v : View α) : Prop where
  boxes : ∀ n, n ∈ v.boxes.keys ↔ n ∈ names
  selected : ∀ n ∈ v.selected.names, n ∈ names
  filters : ∀ n ∈ v.filters.keys, n ∈ names
  scale : rule.Allows v.camera.scale

namespace Sound

variable {rule : Settings α} {names : List String} {v : View α} {n : String}

theorem ofBoxes {boxes : Keyed String (Box α)} (h : ∀ n, n ∈ boxes.keys ↔ n ∈ names) :
    (View.ofBoxes boxes).Sound rule names where
  boxes := h
  selected _ hm := absurd hm List.not_mem_nil
  filters _ hm := absurd hm List.not_mem_nil
  scale := .first

theorem setCamera (h : v.Sound rule names) {c : Camera α} (hc : rule.Allows c.scale) :
    ({ v with camera := c } : View α).Sound rule names :=
  { h with scale := hc }

theorem setQuery (h : v.Sound rule names) (query : String) :
    ({ v with query := query } : View α).Sound rule names :=
  { h with }

/-! ### Selecting -/

theorem select (h : v.Sound rule names) (hn : n ∈ names) : (v.select n).Sound rule names := by
  refine { h with selected := fun m hm => ?_ }
  rcases Selection.mem_insert.1 hm with rfl | hm
  · exact hn
  · exact h.selected m hm

theorem deselect (h : v.Sound rule names) (n : String) : (v.deselect n).Sound rule names :=
  { h with selected := fun m hm => h.selected m (Selection.mem_erase.1 hm).1 }

theorem toggle (h : v.Sound rule names) (hn : n ∈ names) : (v.toggle n).Sound rule names := by
  unfold View.toggle
  split
  · exact h.deselect n
  · exact h.select hn

theorem selectAll (h : v.Sound rule names) : (v.selectAll names).Sound rule names :=
  { h with selected := fun _ hm => Selection.mem_ofList.1 hm }

theorem clearSelection (h : v.Sound rule names) : v.clearSelection.Sound rule names :=
  { h with selected := fun _ hm => absurd hm List.not_mem_nil }

theorem foldl_select (h : v.Sound rule names) {ns : List String} (hns : ∀ n ∈ ns, n ∈ names) :
    (ns.foldl View.select v).Sound rule names := by
  induction ns generalizing v with
  | nil => exact h
  | cons n ns ih =>
    rw [List.forall_mem_cons] at hns
    exact ih (h.select hns.1) hns.2

/-! ### Filters -/

theorem putFilter (h : v.Sound rule names) (hn : n ∈ names) (f : FieldFilter) :
    ({ v with filters := v.filters.put n f } : View α).Sound rule names := by
  refine { h with filters := fun m hm => ?_ }
  rcases Keyed.mem_keys_put.1 hm with rfl | hm
  · exact hn
  · exact h.filters m hm

theorem setFilter (h : v.Sound rule names) (hn : n ∈ names) (relations others : Option Bool) :
    (v.setFilter n relations others).Sound rule names :=
  h.putFilter hn _

/-- The filters of drawn entities are filters of names with boxes. -/
theorem keepFilters (h : v.Sound rule names) (schema : Option Schema) :
    (keepFilters schema v).Sound rule names := by
  rw [keepFilters_eq]
  refine { h with filters := fun n hn => ?_ }
  rcases Filters.mem_keys_recordAll.1 hn with hn | hn
  · exact (h.boxes n).1 (mem_keys_of_mem_drawnNames hn)
  · exact h.filters n hn

/-! ### Boxes -/

theorem place (h : v.Sound rule names) (hn : n ∈ v.boxes.keys) (b : Box α) :
    (v.place n b).Sound rule names := by
  have hkeys : (v.boxes.put n b).keys = v.boxes.keys := by
    rw [Keyed.keys_put, if_pos hn]
  exact { h with boxes := fun m => hkeys ▸ h.boxes m }

theorem reportHeight (h : v.Sound rule names) (n : String) (height : α) :
    (v.reportHeight n height).2.Sound rule names := by
  unfold View.reportHeight
  cases hb : v.boxes.find? n with
  | none => exact h
  | some b =>
    dsimp only
    split
    · exact h
    · exact h.place (Keyed.mem_keys_of_find? hb) _

theorem reveal (h : v.Sound rule names) {s : Stub α} (hs : s.target ∈ names) :
    (v.reveal s).Sound rule names := by
  have hselect : (v.select s.target).Sound rule names := h.select hs
  simp only [View.reveal]
  cases hb : (v.select s.target).boxes.find? s.target with
  | none => exact hselect
  | some b => exact hselect.place (Keyed.mem_keys_of_find? hb) _

end Sound
end View
end SchemaDiagram
