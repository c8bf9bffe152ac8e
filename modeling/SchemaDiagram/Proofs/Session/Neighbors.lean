/-
# Revealing neighbours

Revealing the neighbours of a name selects those that were hidden. After that none is
hidden, so that revealing them again does nothing, and once the name itself is selected
all its relations are drawn as edges.

Key definitions: `Session.RevealsNeighbors`.
Key theorems: `Session.exists_revealNeighbors_eq`, `Session.Reachable.revealsNeighbors`,
`Session.neighbors_and_reveals`.
-/
import SchemaDiagram.Proofs.Diagram.Neighbors
import SchemaDiagram.Proofs.Session.Sound

namespace SchemaDiagram

variable {α : Type}

/-! ### Selecting several names -/

namespace View

theorem mem_foldl_select {v : View α} {ns : List String} {n : String} :
    n ∈ (ns.foldl select v).selected.names ↔ n ∈ ns ∨ n ∈ v.selected.names := by
  induction ns generalizing v with
  | nil => simp
  | cons m ns ih =>
    have hinsert : n ∈ (v.select m).selected.names ↔ n = m ∨ n ∈ v.selected.names :=
      Selection.mem_insert
    rw [List.foldl_cons, ih, hinsert, List.mem_cons, ← or_assoc, or_comm (a := n ∈ ns)]

theorem boxes_foldl_select (v : View α) (ns : List String) :
    (ns.foldl select v).boxes = v.boxes := by
  induction ns generalizing v with
  | nil => rfl
  | cons n ns ih => exact ih (v.select n)

end View

namespace Session

/-! ### Neighbours in a session -/

section

variable {s t : Session α} {m : Schema} {a : String}

theorem knows_of_schema (hm : s.schema = some m) (ha : a ∈ m.names) : s.knows a = true := by
  rw [knows, hm]
  exact Schema.hasEntity_iff.2 ha

theorem neighbors_of_schema (hm : s.schema = some m) (ha : a ∈ m.names) :
    s.neighbors a = .ok (m.near a) := by
  rw [neighbors, hm]
  exact Schema.neighbors_eq ha

theorem hiddenNeighbors_of_schema (hm : s.schema = some m) (ha : a ∈ m.names) :
    s.hiddenNeighbors a = .ok ((m.near a).filter fun n => !s.view.selected.has n) := by
  rw [hiddenNeighbors, neighbors_of_schema hm ha]
  rfl

/-- Where nothing is hidden, nothing happens. -/
theorem revealNeighbors_of_none_hidden (h : s.hiddenNeighbors a = .ok []) :
    s.revealNeighbors a = .ok ([], s) := by
  rw [revealNeighbors, h]
  rfl

/-- The hidden neighbours are answered and selected; the schema stays. -/
theorem exists_revealNeighbors_eq {ns : List String} (h : s.hiddenNeighbors a = .ok ns) :
    ∃ t, s.revealNeighbors a = .ok (ns, t) ∧ t.schema = s.schema ∧
      t.view = ns.foldl View.select s.view := by
  rw [revealNeighbors, h]
  refine ⟨_, rfl, ?_, ?_⟩ <;> split <;> rfl

end

variable [Scalar α]

/-- In a session too, a name that is selected with its neighbours has its relations drawn
as edges. -/
theorem Sound.opens_route {settings : Settings α} {s : Session α} (h : s.Sound settings)
    {m : Schema} (hm : s.schema = some m) {a : String} (ha : a ∈ s.view.selected.names)
    (hnear : ∀ b ∈ m.near a, b ∈ s.view.selected.names) : s.route.Opens m a := by
  obtain ⟨text, rfl⟩ := h.schema m hm
  have hcovers : s.view.Covers (Schema.parse text).names := names_of_schema hm ▸ h.covers
  rw [route, hm]
  exact Schema.opens_route hcovers ha hnear

variable [Sunflower α]

/-- What can be said of a session and the one in which the neighbours of a name have been
revealed. -/
structure RevealsNeighbors (m : Schema) (a : String) (s t : Session α) : Prop where
  selected : ∀ n, n ∈ t.view.selected.names ↔ n ∈ s.view.selected.names ∨ n ∈ m.near a
  boxes : t.view.boxes = s.view.boxes
  none_hidden : t.hiddenNeighbors a = .ok []
  again : t.revealNeighbors a = .ok ([], t)
  /-- Once the name is selected, its relations lead to no hidden entity. -/
  opens : ∀ files, (t.step files (.select a)).2.route.Opens m a

variable {settings : Settings α} {s : Session α} {m : Schema} {a : String}

theorem Reachable.revealsNeighbors (h : Reachable settings s) (hm : s.schema = some m)
    (ha : a ∈ m.names) :
    ∃ t, s.revealNeighbors a = .ok ((m.near a).filter fun n => !s.view.selected.has n, t) ∧
      RevealsNeighbors m a s t := by
  obtain ⟨t, ht, hschema, hview⟩ := exists_revealNeighbors_eq (hiddenNeighbors_of_schema hm ha)
  have htm : t.schema = some m := hschema.trans hm
  have hselected : ∀ n, n ∈ t.view.selected.names ↔ n ∈ s.view.selected.names ∨ n ∈ m.near a := by
    intro n
    rw [hview, View.mem_foldl_select, List.mem_filter, Bool.not_eq_true', ← Bool.not_eq_true,
      Selection.has_iff]
    tauto
  have hnone : t.hiddenNeighbors a = .ok [] := by
    rw [hiddenNeighbors_of_schema htm ha]
    refine congrArg Except.ok (List.filter_eq_nil_iff.2 fun n hn => ?_)
    rw [Bool.not_eq_true', Bool.not_eq_false, Selection.has_iff]
    exact (hselected n).2 (.inr hn)
  refine ⟨t, ht, hselected, ?_, hnone, revealNeighbors_of_none_hidden hnone, fun files => ?_⟩
  · rw [hview, View.boxes_foldl_select]
  · have hstep : (s.step files (.revealNeighbors a)).2 = t := by
      rw [Session.step, ht]
      rfl
    have hreach : Reachable settings t := hstep ▸ h.step files (.revealNeighbors a) trivial
    have hsound := (hreach.step files (.select a) trivial).sound
    rw [step_select (knows_of_schema htm ha)] at hsound ⊢
    refine hsound.opens_route htm (Selection.mem_insert.2 (.inl rfl)) fun b hb => ?_
    exact Selection.mem_insert.2 (.inr ((hselected b).2 (.inr hb)))

/-- **Neighbours and their reveal.** Whatever the text, the neighbours of a name are the
other names related to it in either direction, in the order of declaration. Whatever was
loaded and done before, revealing them selects them and moves nothing, leaves none of them
hidden, and opens all relations of the name. -/
theorem neighbors_and_reveals (settings : Settings α) :
    (∀ source, ∀ a ∈ (Schema.parse source).names,
      (Schema.parse source).neighbors a = .ok ((Schema.parse source).near a) ∧
        ∀ b ∈ (Schema.parse source).names, a ≠ b →
          (b ∈ (Schema.parse source).near a ↔ a ∈ (Schema.parse source).near b) ∧
            (b ∈ (Schema.parse source).near a ↔ (Schema.parse source).Related a b)) ∧
      ∀ s, Reachable settings s → ∀ m, s.schema = some m → ∀ a ∈ m.names,
        ∃ t, s.revealNeighbors a = .ok ((m.near a).filter fun n => !s.view.selected.has n, t) ∧
          RevealsNeighbors m a s t := by
  refine ⟨fun source a ha => ⟨Schema.neighbors_eq ha, fun b hb hne => ⟨?_, ?_⟩⟩, ?_⟩
  · exact Schema.mem_near_comm ha hb
  · rw [Schema.mem_near, and_iff_right hb, and_iff_right hne.symm]
  · exact fun s h m hm a ha => h.revealsNeighbors hm ha

/-- A name that is declared twice, with a relation from each declaration and relations to it:
one of its neighbours is selected already. -/
theorem neighbors_and_reveals_repeated_name :
    letI : Sunflower ℚ := ⟨fun _ => 1, fun _ => 0, fun _ => 0⟩
    let source := "model A \x7b\n  b B\n\x7d\nmodel A \x7b\n  c C\n\x7d\n" ++
      "model B \x7b\n  a A\n\x7d\nmodel C \x7b\n\x7d\nmodel D \x7b\n  a A[]\n  d D\n\x7d"
    let m := Schema.parse source
    let fresh : Session ℚ := .start .stock
    let loaded := (fresh.step ⟨[]⟩ (.load source "a")).2
    let s := (loaded.step ⟨[]⟩ (.select "C")).2
    ("A" ∈ m.names ∧ "B" ∈ m.names ∧ "A" ≠ "B" ∧ m.neighbors "A" = .ok ["B", "C", "D"] ∧
      m.neighbors "B" = .ok ["A", "A"] ∧ ("B" ∈ m.near "A" ↔ "A" ∈ m.near "B")) ∧
    Reachable .stock s ∧ s.schema = some m ∧
      ∃ t, s.revealNeighbors "A" = .ok (["B", "D"], t) ∧ RevealsNeighbors m "A" s t := by
  let _ : Sunflower ℚ := ⟨fun _ => 1, fun _ => 0, fun _ => 0⟩
  intro source m fresh loaded s
  obtain ⟨hmodel, hsession⟩ := neighbors_and_reveals (.stock : Settings ℚ)
  have hnames : "A" ∈ m.names ∧ "B" ∈ m.names ∧ m.near "A" = ["B", "C", "D"] ∧
      m.near "B" = ["A", "A"] ∧ s.view.selected.names = ["C"] ∧ loaded.knows "C" = true := by
    decide +kernel
  obtain ⟨hA, hB, hnearA, hnearB, hselected, hC⟩ := hnames
  have hschema : s.schema = some m := by
    show (loaded.step ⟨[]⟩ (.select "C")).2.schema = some m
    rw [step_select hC]
    rfl
  obtain ⟨hneighborsA, hcomm⟩ := hmodel source "A" hA
  obtain ⟨hneighborsB, -⟩ := hmodel source "B" hB
  have hloaded : Reachable .stock loaded := .step _ _ .start trivial
  have hreach : Reachable .stock s := hloaded.step _ _ trivial
  obtain ⟨t, ht, hreveals⟩ := hsession s hreach m hschema "A" hA
  have hhidden : ((m.near "A").filter fun n => !s.view.selected.has n) = ["B", "D"] := by
    simp only [Selection.has, hselected, hnearA]
    decide
  rw [hhidden] at ht
  refine ⟨⟨hA, hB, by decide, hnearA ▸ hneighborsA, hnearB ▸ hneighborsB, ?_⟩, hreach, hschema,
    t, ht, hreveals⟩
  exact (hcomm "B" hB (by decide)).1

end Session
end SchemaDiagram
