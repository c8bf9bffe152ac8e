/-
# Texts one after the other

A text that ends outside a block says nothing about what follows it: read together
with a text below it, it has its own blocks, and then come the blocks of the other.
Only the entities of both are resolved together, so that a field may name an entity of
the other text. Then everything stays as it was but for fields that become relations,
and all counts but that of the relations add up.

Key definitions: `Scan.depth`, `Summary.Joins`.
Key theorems: `Scan.depth_run_congr`, `Scan.blocks_ofText_append_newline`,
`Schema.blocks_joined`, `Schema.entities_joined`, `Schema.parse_joined`.
-/
import SchemaDiagram.Proofs.Schema.Codes
import SchemaDiagram.Proofs.Schema.Resolved

namespace SchemaDiagram
namespace Scan

open Text (joinLineEnds lines SameButReturn)

/-! ### How deep the reader is -/

/-- The number of braces left open in the block that is being read, if any. -/
def depth (s : Scan) : Option Int :=
  s.current.map (·.depth)

theorem depth_eq_none_iff {s : Scan} : s.depth = none ↔ s.current = none :=
  Option.map_eq_none_iff

theorem eq_of_current_eq_none {s : Scan} (h : s.current = none) : s = ⟨s.closed, none⟩ := by
  rw [← h]

theorem depth_opened (closed : List Block) (o : Opener) :
    (opened closed o).depth =
      if 1 + Opener.delta o.rest ≤ 0 then none else some (1 + Opener.delta o.rest) := by
  simp only [opened]
  split <;> rfl

theorem depth_continued (closed : List Block) (b : OpenBlock) (l : List Char) :
    (continued closed b l).depth =
      if b.depth + Opener.delta (Comment.strip l) ≤ 0 then none
      else some (b.depth + Opener.delta (Comment.strip l)) := by
  simp only [continued]
  split <;> rfl

theorem depth_step_congr {s t : Scan} (h : s.depth = t.depth) {l m : List Char}
    (hc : Comment.code l = Comment.code m) : (s.step l).depth = (t.step m).depth := by
  cases hs : s.current with
  | none =>
    have ht : t.current = none := depth_eq_none_iff.1 (h ▸ depth_eq_none_iff.2 hs)
    simp only [step, hs, ht, Opener.match?_strip_congr hc]
    split
    · rw [depth_opened, depth_opened]
    · exact h
  | some b =>
    obtain ⟨c, ht, hdepth⟩ : ∃ c, t.current = some c ∧ c.depth = b.depth := by
      rw [depth, hs] at h
      exact Option.map_eq_some_iff.1 h.symm
    simp only [step, hs, ht, depth_continued, hdepth, Opener.delta_strip_congr hc]

/-- How deep the reader is can be told from the codes of the lines. -/
theorem depth_run_congr {s t : Scan} (h : s.depth = t.depth) {ls ms : List (List Char)}
    (hc : ls.map Comment.code = ms.map Comment.code) : (run s ls).depth = (run t ms).depth := by
  induction ls generalizing s t ms with
  | nil =>
    obtain rfl := List.map_eq_nil_iff.1 hc.symm
    exact h
  | cons l ls ih =>
    obtain ⟨m, ns, rfl, hm, hns⟩ := List.map_eq_cons_iff.1 hc.symm
    exact ih (depth_step_congr h hm.symm) hns.symm

theorem depth_ofText_joinLineEnds (text : List Char) :
    (ofText (joinLineEnds text)).depth = (ofText text).depth := by
  have hcodes : ∀ t, codes (joinLineEnds t) = codes t := codes_joinLineEnds
  exact depth_run_congr rfl (hcodes (joinLineEnds text))

/-! ### A text below another -/

/-- A carriage return makes no difference on a line after which no block is open. -/
theorem step_append_return {s : Scan} {l : List Char} (h : (s.step (l ++ ['\r'])).current = none) :
    s.step (l ++ ['\r']) = s.step l := by
  have hcode := Comment.code_append_return l
  cases hs : s.current with
  | none => simp only [step, hs, Opener.match?_strip_congr hcode]
  | some b =>
    simp only [step, hs, continued, Opener.delta_strip_congr hcode] at h ⊢
    split
    · rfl
    · next hdepth =>
      rw [if_neg hdepth] at h
      cases h

theorem ofText_append_return {s : List Char} (h : (ofText (s ++ ['\r'])).current = none) :
    ofText (s ++ ['\r']) = ofText s := by
  obtain ⟨ls, l, hs, hlines⟩ := Text.exists_lines_eq_concat (joinLineEnds s)
  have hjoin : joinLineEnds (s ++ ['\r']) = joinLineEnds s ++ ['\r'] :=
    Text.joinLineEnds_append fun _ => by simp
  rw [ofText, hjoin, hlines _ (by simp), run_append] at h ⊢
  rw [ofText, hs, run_append]
  exact step_append_return h

theorem ofText_eq_of_sameButReturn {s u : List Char} (hu : SameButReturn u s)
    (h : (ofText s).current = none) : ofText u = ofText s := by
  rcases hu with rfl | rfl
  · rfl
  · exact (ofText_append_return h).symm

/-- After a text that ends outside a block the reader goes on as after nothing. -/
theorem blocks_ofText_append_newline {s : List Char} (h : (ofText s).current = none)
    (t : List Char) : (ofText (s ++ '\n' :: t)).blocks = (ofText s).blocks ++ (ofText t).blocks := by
  obtain ⟨u, hu, -, hjoin⟩ := Text.exists_joinLineEnds_append_newline s
  have hs := ofText_eq_of_sameButReturn hu h
  have hrun : ofText (s ++ '\n' :: t) = run (ofText s) (lines (joinLineEnds t)) := by
    rw [ofText, hjoin, Text.lines_append_newline, run_append, ← hs, ofText]
  have hblocks : (ofText s).blocks = (ofText s).closed := by simp [blocks, h]
  calc (ofText (s ++ '\n' :: t)).blocks
      = (run ⟨(ofText s).closed, none⟩ (lines (joinLineEnds t))).blocks := by
        rw [hrun, ← eq_of_current_eq_none h]
    _ = (ofText s).closed ++ (Span.ofLines (lines (joinLineEnds t))).map Span.block :=
        blocks_run _ _
    _ = (ofText s).blocks ++ (ofText t).blocks := by rw [hblocks, blocks_ofText t]

end Scan

/-! ### The counts -/

/-- The figures of two texts and of the text that they make up: all add up, but that
there may be more relations. -/
structure Summary.Joins (a b whole : Summary) : Prop where
  lines : whole.lines = a.lines + b.lines
  models : whole.models = a.models + b.models
  enums : whole.enums = a.enums + b.enums
  generators : whole.generators = a.generators + b.generators
  datasources : whole.datasources = a.datasources + b.datasources
  fields : whole.fields = a.fields + b.fields
  options : whole.options = a.options + b.options
  relations : a.relations + b.relations ≤ whole.relations

namespace Summary

theorem total_append (count : Entity → Nat) (a b : List Entity) :
    total count (a ++ b) = total count a + total count b := by
  induction a with
  | nil => rw [List.nil_append, total, Nat.zero_add]
  | cons e es ih => rw [List.cons_append, total, ih, total, Nat.add_assoc]

theorem total_le_total {count : Entity → Nat} {es fs : List Entity}
    (h : List.Forall₂ (fun e f => count e ≤ count f) es fs) : total count es ≤ total count fs := by
  induction h with
  | nil => exact Nat.le_refl _
  | cons he _ ih => exact Nat.add_le_add he ih

theorem total_eq_total {count : Entity → Nat} {es fs : List Entity}
    (h : List.Forall₂ (fun e f => count f = count e) es fs) : total count fs = total count es :=
  Nat.le_antisymm (total_le_total (h.flip.imp fun _ _ h => Nat.le_of_eq h))
    (total_le_total (h.imp fun _ _ h => Nat.le_of_eq h.symm))

/-- The figures of blocks and entities that are put together, with more relations. -/
theorem joins_of {kinds kinds' : List BlockKind} {es es' whole : List Entity} {n m : Int}
    (h : List.Forall₂ Entity.KeptIn (es ++ es') whole) :
    (Summary.of kinds es n).Joins (.of kinds' es' m) (.of (kinds ++ kinds') whole (n + m)) where
  lines := rfl
  models := by
    rw [Summary.of, ← h.length_eq, List.length_append]
    rfl
  enums := List.count_append
  generators := List.count_append
  datasources := List.count_append
  fields := by
    simp only [Summary.of, ← total_append]
    exact total_eq_total (h.imp fun _ _ he => he.fields.length_eq.symm)
  options := by
    simp only [Summary.of, ← total_append]
    exact total_eq_total (h.imp fun _ _ he => congrArg List.length he.options)
  relations := by
    simp only [Summary.of, ← total_append]
    exact total_le_total (h.imp fun _ _ he => he.relations.length_le)

end Summary

namespace Schema

variable {s : String}

theorem blocks_joined (h : (Scan.ofText s.toList).current = none) (t : String) :
    (parse (s ++ "\n" ++ t)).blocks = (parse s).blocks ++ (parse t).blocks := by
  have htext : (s ++ "\n" ++ t).toList = s.toList ++ '\n' :: t.toList := by simp
  have hjoined : (Scan.ofText (Text.joinLineEnds s.toList)).current = none := by
    rw [← Scan.depth_eq_none_iff, Scan.depth_ofText_joinLineEnds, Scan.depth_eq_none_iff]
    exact h
  obtain ⟨u, -, hu, hjoin⟩ := Text.exists_joinLineEnds_append_newline s.toList
  have hs := Scan.ofText_eq_of_sameButReturn hu hjoined
  show (Scan.ofText (Text.joinLineEnds (s ++ "\n" ++ t).toList)).blocks = _
  rw [htext, hjoin, Scan.blocks_ofText_append_newline (hs ▸ hjoined), hs]
  rfl

/-- The entities of both texts are resolved together. -/
theorem entities_joined (h : (Scan.ofText s.toList).current = none) (t : String) :
    (parse (s ++ "\n" ++ t)).entities = resolveAll ((parse s).entities ++ (parse t).entities) := by
  have hblocks : ∀ source, (parse source).entities =
      resolveAll ((parse source).blocks.filterMap draft?) := entities_parse_blocks
  rw [hblocks, blocks_joined h, List.filterMap_append, hblocks s, hblocks t, resolveAll_append]

theorem codes_joined (s t : String) :
    codes (s ++ "\n" ++ t).toList = codes s.toList ++ codes t.toList := by
  have htext : (s ++ "\n" ++ t).toList = s.toList ++ '\n' :: t.toList := by simp
  rw [htext, codes, Text.lines_append_newline, List.map_append, codes, codes]

/-- **Texts add up.** Below a text that ends outside a block another text is read as if
it stood alone: the blocks are those of the one and then those of the other. The
entities are those of both, with their fields and options, and so are all relations; the
lines, the blocks of each kind, the fields and the options are as many as those of both
together, and the relations no fewer. -/
theorem parse_joined (h : (Scan.ofText s.toList).current = none) (t : String) :
    (Scan.ofText (s ++ "\n" ++ t).toList).blocks =
        (Scan.ofText s.toList).blocks ++ (Scan.ofText t.toList).blocks ∧
      (parse s).summary.Joins (parse t).summary (parse (s ++ "\n" ++ t)).summary ∧
      List.Forall₂ Entity.KeptIn ((parse s).entities ++ (parse t).entities)
        (parse (s ++ "\n" ++ t)).entities := by
  have hentities : List.Forall₂ Entity.KeptIn ((parse s).entities ++ (parse t).entities)
      (parse (s ++ "\n" ++ t)).entities := by
    rw [entities_joined h, entities_parse_blocks s, entities_parse_blocks t, resolveAll_append]
    exact keptIn_resolveAll_append _ _
  refine ⟨?_, ?_, hentities⟩
  · have htext : (s ++ "\n" ++ t).toList = s.toList ++ '\n' :: t.toList := by simp
    rw [htext, Scan.blocks_ofText_append_newline h]
  · rw [summary_parse, summary_parse, summary_parse, blocks_joined h, List.map_append,
      codes_joined, List.length_append]
    exact Summary.joins_of hentities

/-- Each of two texts names the model of the other, and the first ends with a carriage
return. -/
theorem parse_joined_mutual :
    let s := "model A \x7b\n  b B?\n\x7d\r"
    let t := "model B \x7b\n  a A[]\n\x7d"
    (Scan.ofText s.toList).current = none ∧
      (parse s).summary.relations = 0 ∧ (parse t).summary.relations = 0 ∧
      (Scan.ofText (s ++ "\n" ++ t).toList).blocks =
        (Scan.ofText s.toList).blocks ++ (Scan.ofText t.toList).blocks ∧
      (parse s).summary.Joins (parse t).summary (parse (s ++ "\n" ++ t)).summary ∧
      (parse (s ++ "\n" ++ t)).summary.relations = 2 := by
  intro s t
  have hend : (Scan.ofText s.toList).current = none := by decide +kernel
  obtain ⟨hblocks, hsummary, -⟩ := parse_joined hend t
  exact ⟨hend, by decide +kernel, by decide +kernel, hblocks, hsummary, by decide +kernel⟩

end Schema
end SchemaDiagram
