/-
# Summary, table and blocks agree

What is counted of a schema is counted in several places: in its summary, in the table of
its entities and in its blocks. Whatever the text, these agree. Each model block has its
entity and its row; the sums of the summary are those of the columns; a row counts the
fields that are relations and lists their targets as they first occur; and the summary
names the first of the models with the most fields, if there is a model.

Key definitions: `Table.column?`, `ListsFirsts`, `FirstLargest`, `Schema.Agrees`.
Key theorems: `listsFirsts_eraseDups`, `filter_ranked`, `largest?_eq_some_iff`,
`Summary.length_eq_counts`, `Schema.figures_agree`.
-/
import SchemaDiagram.Proofs.Schema.LastDeclared
import SchemaDiagram.Proofs.Schema.Resolved
import SchemaDiagram.Proofs.Sorting

namespace SchemaDiagram

/-! ### First occurrences -/

/-- The second list holds the items of the first one, each once, in the order in which
they first occur. -/
structure ListsFirsts (l firsts : List String) : Prop where
  mem : ∀ x, x ∈ firsts ↔ x ∈ l
  ordered : firsts.Pairwise (l.idxOf · < l.idxOf ·)

theorem listsFirsts_eraseDups (l : List String) : ListsFirsts l l.eraseDups := by
  refine ⟨fun x => List.mem_eraseDups, ?_⟩
  induction l using List.reverseRecOn with
  | nil => exact .nil
  | append_singleton l a ih =>
    -- what has occurred before keeps its place
    have hbefore : l.eraseDups.Pairwise ((l ++ [a]).idxOf · < (l ++ [a]).idxOf ·) := by
      refine ih.imp_of_mem fun hx hy hxy => ?_
      rwa [List.idxOf_append_of_mem (List.mem_eraseDups.1 hx),
        List.idxOf_append_of_mem (List.mem_eraseDups.1 hy)]
    rw [eraseDups_concat]
    by_cases ha : a ∈ l
    · rwa [if_pos ha]
    · rw [if_neg ha, List.pairwise_append]
      refine ⟨hbefore, List.pairwise_singleton _ _, fun x hx y hy => ?_⟩
      have hxl : x ∈ l := List.mem_eraseDups.1 hx
      rw [List.mem_singleton.1 hy, List.idxOf_append_of_mem hxl, List.idxOf_append_of_notMem ha]
      exact Nat.lt_of_lt_of_le (List.idxOf_lt_length_of_mem hxl) (Nat.le_add_right _ _)

/-! ### The largest model -/

/-- The entity is the first of those with the most fields. -/
def FirstLargest (es : List Entity) (e : Entity) : Prop :=
  ∃ before after, es = before ++ e :: after ∧
    (∀ d ∈ before, d.fields.length < e.fields.length) ∧
    ∀ d ∈ after, d.fields.length ≤ e.fields.length

theorem outranks_trans (a b c : Entity) (hab : outranks a b = true)
    (hbc : outranks b c = true) : outranks a c = true :=
  decide_eq_true (Nat.le_trans (of_decide_eq_true hbc) (of_decide_eq_true hab))

theorem outranks_total (a b : Entity) : (outranks a b || outranks b a) = true := by
  rw [Bool.or_eq_true, outranks, outranks, decide_eq_true_iff, decide_eq_true_iff]
  exact Nat.le_total _ _

/-- Entities with one number of fields are ranked in the order in which they stand. -/
theorem filter_ranked (es : List Entity) (k : ℕ) :
    (ranked es).filter (·.fields.length = k) = es.filter (·.fields.length = k) := by
  refine filter_mergeSort outranks_trans outranks_total (fun a b ha hb => ?_) es
  exact decide_eq_true ((of_decide_eq_true hb).trans (of_decide_eq_true ha).symm).le

theorem largest?_eq_none_iff {es : List Entity} : largest? es = none ↔ es = [] := by
  rw [largest?, List.head?_eq_none_iff, ranked, ← List.length_eq_zero_iff, List.length_mergeSort,
    List.length_eq_zero_iff]

/-- The sort puts an entity with the most fields first. -/
theorem le_of_largest? {es : List Entity} {e d : Entity} (h : largest? es = some e)
    (hd : d ∈ es) : d.fields.length ≤ e.fields.length := by
  obtain ⟨rest, hes⟩ := List.head?_eq_some_iff.1 h
  have hsorted := List.pairwise_mergeSort outranks_trans outranks_total es
  have hmem : d ∈ ranked es := (List.mergeSort_perm es outranks).mem_iff.2 hd
  rw [ranked] at hes hmem
  rw [hes] at hsorted hmem
  rcases List.mem_cons.1 hmem with rfl | hrest
  · exact Nat.le_refl _
  · exact of_decide_eq_true (List.rel_of_pairwise_cons hsorted hrest)

/-- It puts the first of them first, as it is stable. -/
theorem firstLargest_of_largest? {es : List Entity} {e : Entity} (h : largest? es = some e) :
    FirstLargest es e := by
  obtain ⟨rest, hes⟩ := List.head?_eq_some_iff.1 h
  have hfirst := filter_ranked es e.fields.length
  rw [hes, List.filter_cons_of_pos (by simp)] at hfirst
  obtain ⟨before, after, rfl, hbefore, -, -⟩ := List.filter_eq_cons_iff.1 hfirst.symm
  refine ⟨before, after, rfl, fun d hd => ?_, fun d hd => le_of_largest? h (by simp [hd])⟩
  have hne : d.fields.length ≠ e.fields.length := by simpa using hbefore d hd
  exact Nat.lt_of_le_of_ne (le_of_largest? h (by simp [hd])) hne

theorem FirstLargest.unique {es : List Entity} {d e : Entity} (hd : FirstLargest es d)
    (he : FirstLargest es e) : d = e := by
  obtain ⟨a, b, rfl, ha, hb⟩ := hd
  obtain ⟨a', b', hab, ha', hb'⟩ := he
  rcases List.append_eq_append_iff.1 hab with ⟨c, rfl, hc⟩ | ⟨c, rfl, hc⟩
  · cases c with
    | nil => exact (List.cons.inj hc).1
    | cons x c =>
      obtain ⟨rfl, rfl⟩ := List.cons.inj hc
      have hlt := ha' d (by simp)
      have hle := hb e (by simp)
      omega
  · cases c with
    | nil => exact (List.cons.inj hc).1.symm
    | cons x c =>
      obtain ⟨rfl, rfl⟩ := List.cons.inj hc
      have hlt := ha e (by simp)
      have hle := hb' d (by simp)
      omega

theorem largest?_eq_some_iff {es : List Entity} {e : Entity} :
    largest? es = some e ↔ FirstLargest es e := by
  refine ⟨firstLargest_of_largest?, fun h => ?_⟩
  cases hl : largest? es with
  | none =>
    obtain ⟨a, b, hes, -⟩ := h
    rw [largest?_eq_none_iff.1 hl] at hes
    simp at hes
  | some d => rw [(firstLargest_of_largest? hl).unique h]

/-- Of two entities with the most fields the first one counts. -/
example (f : Field) :
    let a : Entity := ⟨"A", [], [], []⟩
    let b : Entity := ⟨"B", [f], [], []⟩
    let c : Entity := ⟨"C", [f], [], []⟩
    largest? [a, b, c] = some b := by
  cbv

/-! ### Sums and counts -/

namespace Summary

theorem total_eq_sum (count : Entity → ℕ) (es : List Entity) :
    total count es = (es.map count).sum := by
  induction es with
  | nil => rfl
  | cons e es ih => rw [total, ih, List.map_cons, List.sum_cons]

/-- Every block is of one of the four kinds. -/
theorem length_eq_counts (kinds : List BlockKind) :
    kinds.count .model + kinds.count .enum + kinds.count .generator + kinds.count .datasource =
      kinds.length := by
  induction kinds with
  | nil => rfl
  | cons k kinds ih => cases k <;> simp [← ih] <;> omega

theorem largestText_eq_iff (s : Summary) : s.largestText = "n/a" ↔ s.largest = none := by
  rw [largestText]
  cases s.largest with
  | none => exact ⟨fun _ => rfl, fun _ => rfl⟩
  | some e =>
    refine ⟨fun h => ?_, fun h => by cases h⟩
    -- the text ends with a bracket
    have hlast : (e.name ++ " (" ++ toString e.fields.length ++ " fields)").toList.getLast? =
        some ')' := by
      rw [String.toList_append, List.getLast?_append_of_ne_nil _ (by decide)]
      rfl
    rw [show e.name ++ " (" ++ toString e.fields.length ++ " fields)" = "n/a" from h] at hlast
    exact absurd hlast (by decide)

end Summary

/-- The cells under a title. -/
def Table.column? (t : Table) (title : String) : Option (List Cell) :=
  t.columns.lookup title

/-- The relations are the fields that are marked as such. -/
theorem Entity.length_relations_resolve (names : List String) (d : Entity) :
    (d.resolve names).relations.length = (d.resolve names).fields.countP (·.isRelation) := by
  rw [List.countP_eq_length_filter]
  exact (d.resolvesTo_resolve names).relations.length_eq.symm

namespace Schema

/-- The summary of a schema, the table of its entities and its blocks say the same. -/
structure Agrees (m : Schema) : Prop where
  models_entities : m.summary.models = m.entities.length
  models_blocks : m.summary.models = (m.blocksOf .model).length
  models_rows : m.summary.models = m.entitiesTable.rows.length
  kinds : m.summary.models + m.summary.enums + m.summary.generators + m.summary.datasources =
    m.blocks.length
  names : ∀ k : ℕ, (m.entities[k]?).map (·.name) = ((m.blocksOf .model)[k]?).map (·.name)
  fields : ∃ ns : List ℕ, m.entitiesTable.column? "Fields" = some (ns.map (.number ·)) ∧
    m.summary.fields = ns.sum
  options : ∃ ns : List ℕ, m.entitiesTable.column? "Options" = some (ns.map (.number ·)) ∧
    m.summary.options = ns.sum
  relations : ∃ ns : List ℕ, m.entitiesTable.column? "Relations" = some (ns.map (.number ·)) ∧
    m.summary.relations = ns.sum
  /-- An entry counts the fields of the entity that are relations. -/
  marked : m.entitiesTable.column? "Relations" =
    some (m.entities.map fun e => .number (e.fields.countP (·.isRelation)))
  targets : ∃ ts : List (List String),
    m.entitiesTable.column? "Targets" = some (ts.map fun t => .text (", ".intercalate t)) ∧
      List.Forall₂ (fun e t => ListsFirsts (e.relations.map (·.target)) t) m.entities ts
  largest_none : m.summary.largestText = "n/a" ↔ m.entities = []
  largest : m.entities ≠ [] → ∃ e, FirstLargest m.entities e ∧
    m.summary.largestText = e.name ++ " (" ++ toString e.fields.length ++ " fields)"

theorem height_entitiesTable (m : Schema) : m.entitiesTable.height = m.entities.length :=
  List.length_map _

theorem columns_entitiesTable (m : Schema) :
    m.entitiesTable.column? "Fields" = some (m.entities.map fun e => .number e.fields.length) ∧
      m.entitiesTable.column? "Options" =
        some (m.entities.map fun e => .number e.options.length) ∧
      m.entitiesTable.column? "Relations" =
        some (m.entities.map fun e => .number e.relations.length) ∧
      m.entitiesTable.column? "Targets" =
        some (m.entities.map fun e => .text (", ".intercalate e.targets)) := by
  simp [Table.column?, entitiesTable, List.lookup_cons]

theorem length_blocksOf (m : Schema) (k : BlockKind) :
    (m.blocksOf k).length = (m.blocks.map (·.kind)).count k := by
  rw [blocksOf, ← List.countP_eq_length_filter, List.count_eq_countP, List.countP_map]
  rfl

/-- A column of counts of the entities adds up to their total. -/
theorem exists_column_of_count {t : Table} {title : String} {es : List Entity} {count : Entity → ℕ}
    (h : t.column? title = some (es.map fun e => .number (count e))) :
    ∃ ns : List ℕ, t.column? title = some (ns.map (.number ·)) ∧
      Summary.total count es = ns.sum := by
  refine ⟨es.map count, ?_, Summary.total_eq_sum count es⟩
  rw [h, List.map_map]
  rfl

/-- What holds of a schema with one entity for each model block, resolved, and with a
summary of both. -/
theorem agrees_of_summary {m : Schema} {lines : Int}
    (hsummary : m.summary = .of (m.blocks.map (·.kind)) m.entities lines)
    (hentities : m.entities = (m.blocksOf .model).map m.entityOf) : m.Agrees := by
  have hlength : m.entities.length = (m.blocksOf .model).length := by
    rw [hentities, List.length_map]
  have hmodels : m.summary.models = m.entities.length := by rw [hsummary, Summary.of]
  obtain ⟨hfields, hoptions, hrelations, htargets⟩ := columns_entitiesTable m
  exact {
    models_entities := hmodels
    models_blocks := hmodels.trans hlength
    models_rows := by
      rw [Table.rows, List.length_map, List.length_range, height_entitiesTable, hmodels]
    kinds := by
      have hkinds : (m.blocks.map (·.kind)).length = m.blocks.length := List.length_map _
      rw [hmodels, hlength, length_blocksOf, hsummary, ← hkinds, ← Summary.length_eq_counts]
      rfl
    names := fun k => by
      rw [hentities, List.getElem?_map, Option.map_map]
      rfl
    fields := by
      rw [hsummary]
      exact exists_column_of_count hfields
    options := by
      rw [hsummary]
      exact exists_column_of_count hoptions
    relations := by
      rw [hsummary]
      exact exists_column_of_count hrelations
    marked := by
      rw [hrelations]
      refine congrArg some (List.map_congr_left fun e he => ?_)
      rw [hentities] at he
      obtain ⟨b, -, rfl⟩ := List.mem_map.1 he
      rw [entityOf, Entity.length_relations_resolve]
    targets := by
      refine ⟨m.entities.map Entity.targets, ?_, ?_⟩
      · rw [htargets, List.map_map]
        rfl
      · rw [List.forall₂_map_right_iff, List.forall₂_same]
        exact fun e _ => listsFirsts_eraseDups _
    largest_none := by
      rw [Summary.largestText_eq_iff, hsummary]
      exact largest?_eq_none_iff
    largest := fun hne => by
      obtain ⟨e, he⟩ := Option.ne_none_iff_exists'.1 fun h => hne (largest?_eq_none_iff.1 h)
      refine ⟨e, largest?_eq_some_iff.1 he, ?_⟩
      rw [Summary.largestText, hsummary, Summary.of, he] }

/-- **Summary, table and blocks agree**, whatever the text. -/
theorem figures_agree (source : String) : (parse source).Agrees :=
  agrees_of_summary (summary_parse source) (entities_parse_models source)

/-- Two targets of which one comes twice. -/
example :
    let m := parse ("model A \x7b\n  b B?\n  id Int\n  c B[]\n\x7d\n" ++
      "model B \x7b\n  x Int\n  y Int\n  z A\n\x7d")
    m.entitiesTable.column? "Relations" = some [.number 2, .number 1] ∧
      m.entitiesTable.column? "Targets" = some [.text "B", .text "A"] := by
  decide +kernel

end Schema
end SchemaDiagram
