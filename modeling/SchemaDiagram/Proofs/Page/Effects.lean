/-
# What is left of what the page asks

What is asked each time the page is drawn keeps the session: it may put filters on
record that are what they were, and the search text follows the search box. What loads
nothing leaves the schema alone.

Key definitions: `Session.Kept`.
Key theorems: `Session.kept_of_quiet`, `Session.schema_step`, `Journal.kept_carryOut`,
`Journal.schema_carryOut`.
-/
import SchemaDiagram.Proofs.Diagram.Filters
import SchemaDiagram.Proofs.Page.Asks
import SchemaDiagram.Proofs.Session.Cases

namespace SchemaDiagram

/-! ### The session -/

/-- The second session is the first with some search text and with filters on record that
are the same for each entity. -/
def Session.Kept {α : Type} (s t : Session α) : Prop :=
  ∃ filters query, t = s.setView { s.view with filters := filters, query := query } ∧
    ∀ n, Filters.of filters n = s.view.filterOf n

theorem Filters.of_record (F : Filters) (n m : String) : of (record F n) m = of F m := by
  by_cases h : m = n
  · rw [h, of, record, Keyed.find?_put_self]
    rfl
  · rw [of, record, Keyed.find?_put_of_ne _ h]
    rfl

theorem Filters.of_recordAll (F : Filters) (ns : List String) (m : String) :
    of (recordAll F ns) m = of F m := by
  induction ns generalizing F with
  | nil => rfl
  | cons n ns ih => exact (ih (record F n)).trans (of_record F n m)

namespace Session

variable {α : Type} {s t u : Session α}

theorem Kept.refl (s : Session α) : s.Kept s :=
  ⟨s.view.filters, s.view.query, rfl, fun _ => rfl⟩

theorem Kept.trans (h : s.Kept t) (h' : t.Kept u) : s.Kept u := by
  obtain ⟨filters, query, rfl, hof⟩ := h
  obtain ⟨filters', query', rfl, hof'⟩ := h'
  exact ⟨filters', query', rfl, fun n => (hof' n).trans (hof n)⟩

theorem schema_revealNeighbors {n : String} {ns : List String}
    (h : s.revealNeighbors n = .ok (ns, t)) : t.schema = s.schema := by
  obtain ⟨-, rfl | ⟨message, rfl⟩⟩ := revealNeighbors_cases h <;> rfl

variable [Scalar α]

theorem schema_fit {framed : Bool} (h : s.fit = .ok (framed, t)) : t.schema = s.schema := by
  obtain ⟨message, rfl⟩ | ⟨c, -, rfl⟩ := fit_cases h <;> rfl

theorem schema_activate (s : Session α) (stub : Stub α) :
    (s.activate stub).2.schema = s.schema := by
  obtain ⟨f, -, heq⟩ | ⟨framed, u, message, hfit, heq⟩ := s.activate_cases stub <;> rw [heq]
  · rfl
  · have hkept : u.schema = (s.setView (s.view.reveal stub)).schema := schema_fit hfit
    exact hkept

variable [Sunflower α]

/-- What is asked each time the page is drawn keeps the session. -/
theorem kept_of_quiet (s : Session α) (files : Files) {op : Op α} (h : op.isQuiet = true) :
    s.Kept (s.step files op).2 := by
  cases op with
  | search query => exact ⟨s.view.filters, Text.trimString query, rfl, fun _ => rfl⟩
  | setFilter name relations others =>
    cases relations with
    | some b => cases h
    | none =>
      cases others with
      | some b => cases h
      | none =>
        refine of_guarded (.refl s) _ fun _ => ?_
        exact ⟨Filters.record s.view.filters name, s.view.query, rfl, Filters.of_record _ name⟩
  | hiddenNeighbors name => exact .refl s
  | scene =>
    rw [step, scene, keepFilters_eq]
    exact ⟨_, s.view.query, rfl, Filters.of_recordAll _ _⟩
  | _ => cases h

/-- What loads nothing leaves the schema alone. -/
theorem schema_step (s : Session α) (files : Files) {op : Op α} (h : op.loads = false) :
    (s.step files op).2.schema = s.schema := by
  let P (t : Session α) : Prop := t.schema = s.schema
  cases op with
  | load text label => cases h
  | loadFile path => cases h
  | loadDemo => cases h
  | select name => exact of_guarded (P := P) rfl _ fun _ => rfl
  | toggle name => exact of_guarded (P := P) rfl _ fun _ => rfl
  | setFilter name relations others => exact of_guarded (P := P) rfl _ fun _ => rfl
  | selectAll =>
    rw [step, selectAll]
    split <;> rfl
  | revealNeighbors name => exact of_changed (P := P) rfl _ fun _ _ => schema_revealNeighbors
  | activate stub => exact s.schema_activate stub
  | fit => exact of_changed (P := P) rfl _ fun _ _ => schema_fit
  | move at_ =>
    refine of_changed (P := P) rfl _ fun _ t ht => ?_
    obtain ⟨moved, c, -, rfl, -⟩ := move_cases ht
    rfl
  | wheel at_ turn =>
    refine of_changed (P := P) rfl _ fun _ t ht => ?_
    obtain ⟨c, -, rfl⟩ := wheel_cases ht
    rfl
  | _ => rfl

end Session

/-! ### One operation after the other -/

namespace Journal

variable (j : Journal) (files : Files) (t : Session Float × List Record) {ops : List (Op Float)}

theorem kept_carryOut (h : ∀ op ∈ ops, op.isQuiet = true) :
    t.1.Kept (ops.foldl (j.carryOut files) t).1 := by
  induction ops generalizing t with
  | nil => exact .refl t.1
  | cons op ops ih =>
    obtain ⟨hop, hops⟩ := List.forall_mem_cons.1 h
    exact (t.1.kept_of_quiet _ hop).trans (ih _ hops)

theorem schema_carryOut (h : ∀ op ∈ ops, op.loads = false) :
    (ops.foldl (j.carryOut files) t).1.schema = t.1.schema := by
  induction ops generalizing t with
  | nil => rfl
  | cons op ops ih =>
    obtain ⟨hop, hops⟩ := List.forall_mem_cons.1 h
    exact (ih _ hops).trans (t.1.schema_step _ hop)

end Journal
end SchemaDiagram
