/-
# The last declaration of a name

A name may be declared by several model blocks. Wherever it is looked up, it stands for
the last of these: the entity that is found, the table of its fields, its node in the
relation graph, and its box, whose height and place on the spiral are those of that
block. Each name has one box.

Key definitions: `Schema.entityOf`, `Schema.DeclaredLast`, `Schema.StandsFor`.
Key theorems: `Schema.entities_parse_models`, `Spiral.place_eq_ofList`,
`Table.rows_of_columns`, `Schema.DeclaredLast.entities`, `Schema.find?_of_last`,
`Schema.last_declaration_wins`.
-/
import SchemaDiagram.Geometry.Spiral
import SchemaDiagram.Proofs.Exact
import SchemaDiagram.Proofs.Schema.Names
import SchemaDiagram.Proofs.Schema.RelationEdges
import SchemaDiagram.Schema.Table

namespace SchemaDiagram

/-! ### Places on the spiral -/

namespace Spiral

variable {α : Type} [Scalar α] [Sunflower α]

/-- The boxes of entities at places of the spiral, under their names. -/
def boxesFrom (s : Spiral α) (i : ℕ) (es : List Entity) : List (String × Box α) :=
  (es.zipIdx i).map fun p => (p.1.name, s.box p.2 p.1)

theorem placeFrom_eq_foldl (s : Spiral α) (boxes : Keyed String (Box α)) (i : ℕ)
    (es : List Entity) :
    s.placeFrom boxes i es = (s.boxesFrom i es).foldl (fun m b => m.put b.1 b.2) boxes := by
  induction es generalizing boxes i with
  | nil => rfl
  | cons e es ih => exact ih _ (i + 1)

/-- The boxes are put one after the other, so that a later one replaces an earlier one of
its name. -/
theorem place_eq_ofList (s : Spiral α) (es : List Entity) :
    s.place es = .ofList (s.boxesFrom 0 es) :=
  s.placeFrom_eq_foldl _ _ _

/-- Each name has one box. -/
theorem keys_place (s : Spiral α) (es : List Entity) :
    (s.place es).keys = (es.map (·.name)).eraseDups := by
  have hnames : (s.boxesFrom 0 es).map (·.1) = es.map (·.name) := by
    have hfst := congrArg (List.map fun e : Entity => e.name) (List.zipIdx_map_fst 0 es)
    rw [List.map_map] at hfst
    rw [boxesFrom, List.map_map]
    exact hfst
  rw [place_eq_ofList, Keyed.keys_ofList, hnames]

end Spiral

/-! ### Rows -/

/-- The cells of a field in the table of the fields of its entity. -/
def Field.row (f : Field) : List Cell :=
  [.text f.name, .text f.type, .text (" ".intercalate f.attributes), .text (tick f.isNullable),
    .text (tick f.isRelation)]

/-- A table whose columns say something of each item of a list has a row for each item. -/
theorem Table.rows_of_columns {γ : Type} (c : String × (γ → Cell)) (cs : List (String × (γ → Cell)))
    (xs : List γ) :
    (Table.mk ((c :: cs).map fun d => (d.1, xs.map d.2))).rows =
      xs.map fun x => (c :: cs).map fun d => d.2 x := by
  have hheight : (Table.mk ((c :: cs).map fun d => (d.1, xs.map d.2))).height = xs.length :=
    List.length_map _
  rw [rows, hheight]
  refine List.ext_getElem (by simp) fun i _ hi => ?_
  rw [List.length_map] at hi
  simp only [List.getElem_map, List.getElem_range, List.filterMap_map, Function.comp_def,
    List.getElem?_map, List.getElem?_eq_getElem hi, Option.map_some, List.filterMap_eq_map']

namespace Schema

/-! ### Model blocks -/

/-- The entity that a model block declares among the names of the schema. -/
def entityOf (m : Schema) (b : Block) : Entity :=
  (Entity.draft ⟨b.name, b.kind⟩ (.ofLines b.body)).resolve m.names

/-- The block is the model block of number `i`, and no later one declares its name. -/
structure DeclaredLast (m : Schema) (n : String) (i : ℕ) (b : Block) : Prop where
  getElem? : (m.blocksOf .model)[i]? = some b
  name : b.name = n
  last : ∀ j c, i < j → (m.blocksOf .model)[j]? = some c → c.name ≠ n

theorem filterMap_draft? (bs : List Block) :
    bs.filterMap draft? =
      (bs.filter fun b => b.kind = .model).map
        fun b => .draft ⟨b.name, b.kind⟩ (.ofLines b.body) := by
  rw [← List.filterMap_eq_map', List.filterMap_filter]
  refine List.filterMap_congr fun b _ => ?_
  simp only [draft?, decide_eq_true_eq]

/-- There is one entity for each model block. -/
theorem entities_parse_models (source : String) :
    (parse source).entities = ((parse source).blocksOf .model).map (parse source).entityOf := by
  have hnames := congrArg (List.map fun e : Entity => e.name) (entities_parse_blocks source)
  rw [resolveAll_names] at hnames
  rw [entities_parse_blocks, resolveAll, ← hnames, filterMap_draft?, List.map_map]
  rfl

theorem names_parse_models (source : String) :
    (parse source).names = ((parse source).blocksOf .model).map (·.name) := by
  rw [names, entities_parse_models, List.map_map]
  rfl

theorem exists_declaredLast {source n : String} (h : n ∈ (parse source).names) :
    ∃ i b, (parse source).DeclaredLast n i b := by
  rw [names_parse_models] at h
  obtain ⟨c, hc, hcn⟩ := List.mem_map.1 h
  have hp : decide (c.name = n) = true := decide_eq_true hcn
  obtain ⟨i, b, hb, hbn, hlast⟩ := exists_last_of_mem (p := fun b : Block => b.name = n) hc hp
  exact ⟨i, b, hb, of_decide_eq_true hbn, fun j d hij hd => of_decide_eq_false (hlast j d hij hd)⟩

/-- The entity of the last block of a name is the last entity of the name. -/
theorem DeclaredLast.entities {source n : String} {i : ℕ} {b : Block}
    (h : (parse source).DeclaredLast n i b) :
    (parse source).entities[i]? = some ((parse source).entityOf b) ∧
      ∀ j e, i < j → (parse source).entities[j]? = some e → e.name ≠ n := by
  rw [entities_parse_models]
  refine ⟨by rw [List.getElem?_map, h.getElem?, Option.map_some], fun j e hij he => ?_⟩
  rw [List.getElem?_map] at he
  obtain ⟨c, hc, rfl⟩ := Option.map_eq_some_iff.1 he
  exact h.last j c hij hc

/-! ### Looking a name up -/

/-- What a name stands for when it is looked up: an entity of number `i`. -/
structure StandsFor {α : Type} [Scalar α] [Sunflower α] (m : Schema) (spiral : Spiral α)
    (n : String) (i : ℕ) (e : Entity) : Prop where
  entity : m.entity n = .ok e
  /-- The table of the fields has a row for each field of the entity. -/
  table : ∃ t, m.fieldsTable n = .ok t ∧
    t.titles = ["Field", "Type", "Attributes", "Nullable", "Relation"] ∧
    t.rows = e.fields.map Field.row
  node : m.relationGraph.nodes.find? n = some ⟨e.fields.length, e.options.length⟩
  /-- The box is as high as the entity asks for, at the place of its number. -/
  box : (spiral.place m.entities).find? n = some (spiral.box i e)

section

variable {m : Schema} {n : String} {i : ℕ} {e : Entity}
  (he : m.entities[i]? = some e) (hn : e.name = n)
  (hlast : ∀ j d, i < j → m.entities[j]? = some d → d.name ≠ n)

include he hn hlast

/-- What is put under the names of the entities one after the other is found as it was
put for the last entity of the name. -/
theorem find?_of_last {β : Type} {ds : List (String × β)} (f : ℕ → Entity → β)
    (hds : ∀ j, ds[j]? = m.entities[j]?.map fun d => (d.name, f j d)) :
    (Keyed.ofList ds).find? n = some (f i e) := by
  refine Keyed.find?_ofList_of_last (by rw [hds, he, Option.map_some, hn]) fun j d hij hd => ?_
  rw [hds] at hd
  obtain ⟨c, hc, rfl⟩ := Option.map_eq_some_iff.1 hd
  exact hlast j c hij hc

theorem entity_of_last : m.entity n = .ok e := by
  have hfind : m.index.find? n = some e :=
    find?_of_last he hn hlast (fun _ d => d) fun _ => List.getElem?_map
  rw [entity, hfind]

theorem fieldsTable_of_last :
    ∃ t, m.fieldsTable n = .ok t ∧
      t.titles = ["Field", "Type", "Attributes", "Nullable", "Relation"] ∧
      t.rows = e.fields.map Field.row := by
  rw [fieldsTable, entity_of_last he hn hlast]
  refine ⟨_, rfl, rfl, ?_⟩
  exact Table.rows_of_columns ("Field", fun f : Field => .text f.name)
    [("Type", fun f => .text f.type),
      ("Attributes", fun f => .text (" ".intercalate f.attributes)),
      ("Nullable", fun f => .text (tick f.isNullable)),
      ("Relation", fun f => .text (tick f.isRelation))] e.fields

theorem node_of_last :
    m.relationGraph.nodes.find? n = some ⟨e.fields.length, e.options.length⟩ := by
  rw [relationGraph, RelationGraph.ofEntities_eq]
  exact find?_of_last he hn hlast (fun _ d => (⟨d.fields.length, d.options.length⟩ : NodeSize))
    fun _ => List.getElem?_map

theorem box_of_last {α : Type} [Scalar α] [Sunflower α] (spiral : Spiral α) :
    (spiral.place m.entities).find? n = some (spiral.box i e) := by
  rw [Spiral.place_eq_ofList]
  refine find?_of_last he hn hlast spiral.box fun j => ?_
  rw [Spiral.boxesFrom, List.getElem?_map, List.getElem?_zipIdx, Option.map_map, Nat.zero_add]
  rfl

end

/-- **The last declaration of a name wins**, whatever the text. A name is known exactly if
a model block declares it, and each has one box. Of the blocks of a known name there is a
last one, and whatever is looked up under the name comes from it. -/
theorem last_declaration_wins {α : Type} [Scalar α] [Sunflower α] (source : String)
    (spiral : Spiral α) :
    (∀ n, (parse source).hasEntity n = true ↔
        ∃ b ∈ (parse source).blocksOf .model, b.name = n) ∧
      (spiral.place (parse source).entities).keys =
        (((parse source).blocksOf .model).map (·.name)).eraseDups ∧
      (∀ n, (parse source).hasEntity n = true → ∃ i b, (parse source).DeclaredLast n i b) ∧
      ∀ n i b, (parse source).DeclaredLast n i b →
        (parse source).StandsFor spiral n i ((parse source).entityOf b) := by
  refine ⟨fun n => ?_, ?_, fun n hn => ?_, fun n i b hb => ?_⟩
  · rw [hasEntity_iff, names_parse_models, List.mem_map]
  · rw [Spiral.keys_place, ← names_parse_models]
    rfl
  · exact exists_declaredLast (hasEntity_iff.1 hn)
  · obtain ⟨he, hlast⟩ := hb.entities
    exact ⟨entity_of_last he hb.name hlast, fieldsTable_of_last he hb.name hlast,
      node_of_last he hb.name hlast, box_of_last he hb.name hlast spiral⟩

/-- A name declared again after another name: its node and its box are those of the later
declaration, and the names keep the order in which they first came. -/
theorem last_declaration_wins_again :
    letI : Sunflower ℚ := ⟨fun _ => 1, fun _ => 0, fun i => i⟩
    let m := parse ("model A \x7b\n  b B\n\x7d\nenum E \x7b\n  X\n\x7d\nmodel B \x7b\n\x7d\n" ++
      "model A \x7b\n  id Int @id\n  b B?\n  @@map(\"a\")\n\x7d\n")
    let b : Block := ⟨.model, "A", ["  id Int @id", "  b B?", "  @@map(\"a\")"]⟩
    let spiral : Spiral ℚ := .stock
    m.hasEntity "A" = true ∧ m.DeclaredLast "A" 2 b ∧ m.StandsFor spiral "A" 2 (m.entityOf b) ∧
      m.relationGraph.nodes.find? "A" = some ⟨2, 1⟩ ∧
      (spiral.place m.entities).keys = ["A", "B"] ∧
      (spiral.place m.entities).find? "A" = some ⟨2930, 2518, 300, 164⟩ := by
  let _ : Sunflower ℚ := ⟨fun _ => 1, fun _ => 0, fun i => i⟩
  intro m b spiral
  have hread : (m.blocksOf .model).length = 3 ∧ (m.blocksOf .model)[2]? = some b ∧
      m.hasEntity "A" = true ∧ m.relationGraph.nodes.find? "A" = some ⟨2, 1⟩ ∧
      (spiral.place m.entities).keys = ["A", "B"] ∧
      (spiral.place m.entities).find? "A" = some ⟨2930, 2518, 300, 164⟩ := by
    decide +kernel
  obtain ⟨hlength, hthird, hknown, hnode, hkeys, hbox⟩ := hread
  have hb : m.DeclaredLast "A" 2 b := by
    refine ⟨hthird, rfl, fun j c hj hc => ?_⟩
    rw [List.getElem?_eq_none (by omega)] at hc
    cases hc
  obtain ⟨-, -, -, hstands⟩ := last_declaration_wins (α := ℚ) _ spiral
  exact ⟨hknown, hb, hstands "A" 2 b hb, hnode, hkeys, hbox⟩

end Schema
end SchemaDiagram
