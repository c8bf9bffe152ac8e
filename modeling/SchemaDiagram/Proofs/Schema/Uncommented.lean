/-
# Comments say nothing

Cutting the comments off all lines of a text leaves everything that is read
from it as it is: the outlines of its blocks, the entities with their fields,
options and relations, and the summary. The inner lines of a block lose their
comments and are the same lines otherwise.

Key definitions: `Schema.uncommented`.
Key theorems: `Schema.parse_uncommented`.
-/
import SchemaDiagram.Proofs.Schema.Codes

namespace SchemaDiagram

/-- A line of text without its comment. -/
def Comment.stripString (l : String) : String :=
  String.ofList (Comment.strip l.toList)

/-- The body of a block over several lines, when its inner lines lose their
comments. -/
theorem Span.body_mapLines_strip {p : Span} (hp : p.isInline = false)
    (hr : Comment.strip p.opener.rest = p.opener.rest) :
    (p.mapLines Comment.strip).block.body = p.block.body.map Comment.stripString := by
  cases p with
  | inline o => cases hp
  | spread o inner =>
    have hfirst : (Scan.firstLine o.rest).map Comment.stripString = Scan.firstLine o.rest := by
      unfold Scan.firstLine
      split
      · rfl
      · rw [List.map_singleton, Comment.stripString, String.toList_ofList,
          show Comment.strip o.rest = o.rest from hr]
    simp only [mapLines, block, List.map_append, List.map_map, hfirst]
    congr 2
    funext l
    simp [Comment.stripString]

namespace Schema

/-- A text with the comments of its lines cut off. -/
def uncommented (source : String) : String :=
  String.ofList (Text.unlines ((Text.lines (Text.joinLineEnds source.toList)).map Comment.strip))

theorem lines_uncommented (source : String) :
    Text.lines (uncommented source).toList =
      (Text.lines (Text.joinLineEnds source.toList)).map Comment.strip := by
  rw [uncommented, String.toList_ofList, Text.lines_unlines]
  · simpa using Text.lines_ne_nil _
  · intro l hl
    obtain ⟨k, hk, rfl⟩ := List.mem_map.1 hl
    exact fun hm => Text.not_mem_of_mem_lines k hk ((Comment.strip_prefix k).subset hm)

theorem codes_uncommented (source : String) :
    codes (uncommented source).toList = codes source.toList := by
  rw [codes, lines_uncommented, List.map_map, ← codes_joinLineEnds source.toList, codes]
  exact List.map_congr_left fun l _ => Comment.code_strip l

theorem return_not_mem_uncommented {source : String} (h : '\r' ∉ source.toList) :
    '\r' ∉ (uncommented source).toList := by
  rw [← Text.exists_mem_lines_iff (by decide), lines_uncommented, Text.joinLineEnds_eq_self h]
  rintro ⟨l, hl, hm⟩
  obtain ⟨k, hk, rfl⟩ := List.mem_map.1 hl
  exact h ((Text.exists_mem_lines_iff (by decide)).1 ⟨k, hk, (Comment.strip_prefix k).subset hm⟩)

/-- The blocks of a text without carriage returns, before and after its comments
are cut off. -/
theorem blocks_uncommented {source : String} (h : '\r' ∉ source.toList) :
    (Scan.ofText (uncommented source).toList).blocks =
      (Span.ofLines (Text.lines source.toList)).map fun p => (p.mapLines Comment.strip).block := by
  rw [Scan.blocks_ofText, Text.joinLineEnds_eq_self (return_not_mem_uncommented h),
    lines_uncommented, Text.joinLineEnds_eq_self h, Span.ofLines_map Comment.code_strip,
    List.map_map]
  rfl

/-- **Comments say nothing.** Without its comments a text has blocks with the same
outlines, the same entities and the same summary; and if it has no carriage
returns, a block that does not end on its opener line keeps its body lines but
for their comments. -/
theorem parse_uncommented (source : String) :
    (Scan.ofText (uncommented source).toList).blocks.map Block.outline =
        (Scan.ofText source.toList).blocks.map Block.outline ∧
      (parse (uncommented source)).entities = (parse source).entities ∧
      (parse (uncommented source)).summary = (parse source).summary ∧
      ('\r' ∉ source.toList →
        (Scan.ofText source.toList).blocks =
            (Span.ofLines (Text.lines source.toList)).map Span.block ∧
          List.Forall₂
            (fun p b => p.isInline = false → b.body = p.block.body.map Comment.stripString)
            (Span.ofLines (Text.lines source.toList))
            (Scan.ofText (uncommented source).toList).blocks) := by
  have hc := codes_uncommented source
  obtain ⟨hentities, hsummary⟩ := parse_congr hc
  refine ⟨?_, hentities, hsummary, fun h => ⟨?_, ?_⟩⟩
  · rw [Scan.outlines_ofText, Scan.outlines_ofText, hc]
  · rw [Scan.blocks_ofText, Text.joinLineEnds_eq_self h]
  · rw [blocks_uncommented h, List.forall₂_map_right_iff, List.forall₂_same]
    intro p hp hi
    obtain ⟨l, hl⟩ := Span.exists_match?_opener p hp
    exact Span.body_mapLines_strip hi (Opener.strip_rest hl)

/-- A brace and a quote in comments, in a text without carriage returns. -/
theorem body_uncommented_braces :
    '\r' ∉ "model A \x7b // \x7b\n  b B // it's\n\x7d".toList ∧
      List.Forall₂
        (fun p b => p.isInline = false → b.body = p.block.body.map Comment.stripString)
        (Span.ofLines (Text.lines "model A \x7b // \x7b\n  b B // it's\n\x7d".toList))
        (Scan.ofText (uncommented "model A \x7b // \x7b\n  b B // it's\n\x7d").toList).blocks :=
  ⟨by decide, ((parse_uncommented _).2.2.2 (by decide)).2⟩

end Schema
end SchemaDiagram
