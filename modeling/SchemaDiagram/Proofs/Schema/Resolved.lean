/-
# Relations go by the names

Resolving looks at a draft and at the set of declared names, and at nothing else. A
field is a relation if the name that its type leaves without brackets and question
marks is declared, wherever that is, so the order of the drafts does not matter,
resolving twice is resolving once, and more drafts make more relations at most.

Key definitions: `Bare`, `Entity.ResolvesTo`, `Entity.KeptIn`.
Key theorems: `Entity.resolvesTo_resolve`, `Entity.resolve_congr`,
`Entity.keptIn_resolve`, `resolveAll_append`, `resolveAll_resolves`.
-/
import Mathlib.Data.List.FinRange
import Mathlib.Data.List.Forall2
import SchemaDiagram.Schema.Resolve

namespace SchemaDiagram

/-- The name is the type expression without all brackets and question marks. -/
def Bare (type name : String) : Prop :=
  name.toList = type.toList.filter (· ∉ ['[', ']', '?'])

theorem bare_iff {type name : String} : Bare type name ↔ baseType type = name := by
  have hfilter : (type.toList.filter (· ∉ ['[', ']', '?'])) = (baseType type).toList := by
    rw [baseType, String.toList_ofList]
    exact List.filter_congr fun c _ => by simp [Bool.and_assoc]
  rw [Bare, hfilter, String.toList_inj, eq_comm]

/-! ### One draft -/

/-- The entity that a draft becomes among some names: its fields are marked as
relations or not, and its relations are those of the marked fields, in their order. -/
structure Entity.ResolvesTo (names : List String) (d e : Entity) : Prop where
  name : e.name = d.name
  kind : e.kind = d.kind
  options : e.options = d.options
  fields : List.Forall₂ (fun f g => { g with isRelation := f.isRelation } = f) d.fields e.fields
  marked : ∀ f ∈ e.fields, f.isRelation = true ↔ ∃ n ∈ names, Bare f.type n
  relations : List.Forall₂ (fun f r => r.field = f.name ∧ Bare f.type r.target ∧ r.type = f.type)
    (e.fields.filter (·.isRelation)) e.relations

namespace Entity

theorem isRelation_classify (names : List String) (f : Field) :
    (classify names f).isRelation = true ↔ ∃ n ∈ names, Bare f.type n := by
  have hbase : ∀ n, Bare f.type n ↔ n = f.baseType := fun n => by
    rw [bare_iff, eq_comm, Field.baseType]
  simp only [hbase, exists_eq_right]
  exact List.contains_iff_mem

/-- Each marked field has its relation. -/
theorem forall₂_relations (fs : List Field) :
    List.Forall₂ (fun f r => r.field = f.name ∧ Bare f.type r.target ∧ r.type = f.type)
      (fs.filter (·.isRelation)) (fs.filterMap relation?) := by
  induction fs with
  | nil => exact .nil
  | cons f fs ih =>
    cases hf : f.isRelation with
    | false =>
      have hnone : relation? f = none := by simp [relation?, hf]
      rw [List.filter_cons_of_neg (by simp [hf]), List.filterMap_cons_none hnone]
      exact ih
    | true =>
      have hsome : relation? f = some ⟨f.name, f.baseType, f.type⟩ := by simp [relation?, hf]
      rw [List.filter_cons_of_pos hf, List.filterMap_cons_some hsome]
      exact .cons ⟨rfl, bare_iff.2 rfl, rfl⟩ ih

theorem resolvesTo_resolve (names : List String) (d : Entity) :
    d.ResolvesTo names (d.resolve names) where
  name := rfl
  kind := rfl
  options := rfl
  fields := by
    simp only [resolve, List.forall₂_map_right_iff, List.forall₂_same]
    exact fun f _ => rfl
  marked := by
    intro g hg
    obtain ⟨f, -, rfl⟩ := List.mem_map.1 hg
    exact isRelation_classify names f
  relations := forall₂_relations _

/-- How often and in which order the names are given is all the same. -/
theorem resolve_congr {names others : List String} (h : ∀ n, n ∈ names ↔ n ∈ others)
    (d : Entity) : d.resolve names = d.resolve others := by
  have hclassify : classify names = classify others := by
    funext f
    have hcontains : names.contains f.baseType = others.contains f.baseType := by
      rw [Bool.eq_iff_iff, List.contains_iff_mem, List.contains_iff_mem]
      exact h _
    rw [classify, classify, hcontains]
  rw [resolve, resolve, hclassify]

/-- Resolving again forgets how the fields were classified before. -/
theorem resolve_resolve (names others : List String) (e : Entity) :
    (e.resolve names).resolve others = e.resolve others := by
  have hfields : (e.fields.map (classify names)).map (classify others) =
      e.fields.map (classify others) := List.map_map
  simp only [resolve, hfields]

end Entity

/-! ### More names -/

/-- The other entity has the same name, kind, options and fields, and what is a relation
here is the same relation there. -/
structure Entity.KeptIn (e f : Entity) : Prop where
  name : f.name = e.name
  kind : f.kind = e.kind
  options : f.options = e.options
  fields : List.Forall₂ (fun a b => { b with isRelation := a.isRelation } = a ∧
    ∀ r, relation? a = some r → relation? b = some r) e.fields f.fields
  relations : e.relations.Sublist f.relations

namespace Entity

theorem relation?_classify_of_subset {names more : List String} (h : names ⊆ more) {f : Field}
    {r : Relation} (hr : relation? (classify names f) = some r) :
    relation? (classify more f) = some r := by
  unfold relation? at hr ⊢
  split at hr
  · next hf =>
    have hmore : (classify more f).isRelation = true :=
      List.contains_iff_mem.2 (h (List.contains_iff_mem.1 hf))
    rw [if_pos hmore]
    exact hr
  · cases hr

/-- Among more names an entity keeps its relations. -/
theorem keptIn_resolve {names more : List String} (h : names ⊆ more) (e : Entity) :
    (e.resolve names).KeptIn (e.resolve more) where
  name := rfl
  kind := rfl
  options := rfl
  fields := by
    simp only [resolve, List.forall₂_map_left_iff, List.forall₂_map_right_iff, List.forall₂_same]
    exact fun f _ => ⟨rfl, fun r => relation?_classify_of_subset h⟩
  relations := by
    simp only [resolve]
    induction e.fields with
    | nil => exact .refl _
    | cons f fs ih =>
      simp only [List.map_cons, List.filterMap_cons]
      cases hr : relation? (classify names f) with
      | none =>
        simp only
        split
        · exact ih
        · exact ih.cons _
      | some r =>
        rw [relation?_classify_of_subset h hr]
        exact ih.cons_cons r

end Entity

/-! ### All drafts -/

theorem length_resolveAll (drafts : List Entity) : (resolveAll drafts).length = drafts.length :=
  List.length_map _

theorem map_resolve_resolveAll (names : List String) (drafts : List Entity) :
    (resolveAll drafts).map (Entity.resolve names) = drafts.map (Entity.resolve names) := by
  rw [resolveAll, List.map_map]
  exact List.map_congr_left fun d _ => d.resolve_resolve _ _

theorem resolveAll_resolveAll (drafts : List Entity) :
    resolveAll (resolveAll drafts) = resolveAll drafts := by
  rw [resolveAll, resolveAll_names, map_resolve_resolveAll, resolveAll]

/-- Entities that were resolved apart are resolved together as if they had not been. -/
theorem resolveAll_append (a b : List Entity) :
    resolveAll (resolveAll a ++ resolveAll b) = resolveAll (a ++ b) := by
  have hnames : (resolveAll a ++ resolveAll b).map (·.name) = (a ++ b).map (·.name) := by
    rw [List.map_append, resolveAll_names, resolveAll_names, List.map_append]
  rw [resolveAll, hnames, List.map_append, map_resolve_resolveAll, map_resolve_resolveAll,
    ← List.map_append, resolveAll]

theorem resolveAll_eq_of_perm {drafts others : List Entity} (h : drafts.Perm others) :
    resolveAll drafts = drafts.map (Entity.resolve (others.map (·.name))) :=
  List.map_congr_left fun d _ => d.resolve_congr fun _ => (h.map _).mem_iff

/-- Drafts in another order are resolved in that order. -/
theorem resolveAll_ofFn (drafts : List Entity) (σ : Equiv.Perm (Fin drafts.length)) :
    resolveAll (List.ofFn fun i => drafts.get (σ i)) =
      List.ofFn fun i => (resolveAll drafts).get ((σ i).cast (length_resolveAll drafts).symm) := by
  have hperm : (List.ofFn fun i => drafts.get (σ i)).Perm drafts := by
    have h := σ.ofFn_comp_perm drafts.get
    rwa [List.ofFn_get] at h
  rw [resolveAll_eq_of_perm hperm, List.map_ofFn]
  congr 1
  funext i
  simp only [Function.comp_apply, resolveAll, List.get_eq_getElem, List.getElem_map]
  rfl

/-- What is resolved among some names keeps its relations among more. -/
theorem forall₂_keptIn {drafts : List Entity} {more : List String}
    (h : drafts.map (·.name) ⊆ more) :
    List.Forall₂ Entity.KeptIn (resolveAll drafts) (drafts.map (Entity.resolve more)) := by
  simp only [resolveAll, List.forall₂_map_left_iff, List.forall₂_map_right_iff, List.forall₂_same]
  exact fun d _ => d.keptIn_resolve h

theorem keptIn_resolveAll_append (a b : List Entity) :
    List.Forall₂ Entity.KeptIn (resolveAll a ++ resolveAll b) (resolveAll (a ++ b)) := by
  rw [show resolveAll (a ++ b) = _ from List.map_append]
  exact List.rel_append (forall₂_keptIn (by simp)) (forall₂_keptIn (by simp))

theorem exists_keptIn_of_sublist {drafts more : List Entity} (h : drafts.Sublist more) :
    ∃ es, es.Sublist (resolveAll more) ∧ List.Forall₂ Entity.KeptIn (resolveAll drafts) es :=
  ⟨drafts.map (Entity.resolve (more.map (·.name))), h.map _, forall₂_keptIn (h.map _).subset⟩

/-- **Relations go by the names.** Each draft becomes an entity whose relations are its
fields of declared types, so that every relation has an entity as its target. Resolving
twice is resolving once, drafts in another order are resolved in that order, and among
more drafts every entity keeps its relations. -/
theorem resolveAll_resolves (drafts : List Entity) :
    List.Forall₂ (Entity.ResolvesTo (drafts.map (·.name))) drafts (resolveAll drafts) ∧
      (∀ e ∈ resolveAll drafts, ∀ r ∈ e.relations, ∃ t ∈ resolveAll drafts, t.name = r.target) ∧
      resolveAll (resolveAll drafts) = resolveAll drafts ∧
      (∀ σ : Equiv.Perm (Fin drafts.length),
        resolveAll (List.ofFn fun i => drafts.get (σ i)) =
          List.ofFn fun i =>
            (resolveAll drafts).get ((σ i).cast (length_resolveAll drafts).symm)) ∧
      ∀ more, drafts.Sublist more → ∃ es, es.Sublist (resolveAll more) ∧
        List.Forall₂ Entity.KeptIn (resolveAll drafts) es := by
  refine ⟨?_, ?_, resolveAll_resolveAll drafts, resolveAll_ofFn drafts,
    fun _ => exists_keptIn_of_sublist⟩
  · simp only [resolveAll, List.forall₂_map_right_iff, List.forall₂_same]
    exact fun d _ => d.resolvesTo_resolve _
  · intro e he r hr
    obtain ⟨d, -, rfl⟩ := List.mem_map.1 he
    have htarget := Entity.target_mem_of_mem_resolve hr
    rw [← resolveAll_names] at htarget
    exact List.mem_map.1 htarget

/-- Two drafts of different kinds that point to each other, and one more that makes a
relation of a field that was none. -/
theorem resolveAll_resolves_mutual :
    let a : Entity :=
      ⟨"A", [⟨"b", "B?", [], "b B?", false⟩, ⟨"n", "Int", [], "n Int", true⟩], [], []⟩
    let b : Entity := ⟨⟨"B", .enum⟩, [⟨"a", "[A]", [], "a [A]", false⟩], ["@@map"], []⟩
    let int : Entity := ⟨⟨"Int", .datasource⟩, [], [], []⟩
    (resolveAll [a, b]).map (·.relations) = [[⟨"b", "B", "B?"⟩], [⟨"a", "A", "[A]"⟩]] ∧
      (resolveAll [a, b]).map (·.kind) = [.model, .enum] ∧
      (∃ e ∈ resolveAll [a, b], ∃ r ∈ e.relations, r.target = "B" ∧
        ∃ t ∈ resolveAll [a, b], t.name = r.target) ∧
      [a, b].Sublist [int, a, b] ∧
      ∃ es, es.Sublist (resolveAll [int, a, b]) ∧
        List.Forall₂ Entity.KeptIn (resolveAll [a, b]) es := by
  intro a b int
  obtain ⟨-, htargets, -, -, hmore⟩ := resolveAll_resolves [a, b]
  have he : a.resolve ["A", "B"] ∈ resolveAll [a, b] := List.mem_cons_self
  have hr : ⟨"b", "B", "B?"⟩ ∈ (a.resolve ["A", "B"]).relations := by decide
  have hsub : [a, b].Sublist [int, a, b] := List.sublist_cons_self _ _
  exact ⟨by decide, by decide, ⟨_, he, _, hr, rfl, htargets _ he _ hr⟩, hsub, hmore _ hsub⟩

end SchemaDiagram
