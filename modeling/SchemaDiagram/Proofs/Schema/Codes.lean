/-
# Reading goes by the code

Two texts whose lines have the same codes declare the same: their blocks have
the same kinds, names and numbers of lines, and the entities and the summary are
equal. Carriage returns before line feeds are not part of any code.

Key definitions: `codes`, `Block.outline`.
Key theorems: `codes_joinLineEnds`, `Scan.outlines_ofText`,
`Schema.entities_parse`, `Schema.parse_congr`.
-/
import SchemaDiagram.Proofs.Schema.Span
import SchemaDiagram.Proofs.Text.Lines
import SchemaDiagram.Schema.Parse

namespace SchemaDiagram

/-- The codes of the lines of a text. -/
def codes (text : List Char) : List (List Char) :=
  (Text.lines text).map Comment.code

theorem codes_joinLineEnds (text : List Char) : codes (Text.joinLineEnds text) = codes text :=
  Text.map_lines_joinLineEnds Comment.code_append_return text

/-- What of a block shows without its lines: its kind, its name and how many lines
its body has. -/
def Block.outline (b : Block) : BlockKind × String × Nat :=
  (b.kind, b.name, b.body.length)

namespace Span

theorem outline_mapLines (f : List Char → List Char) (p : Span) :
    (p.mapLines f).block.outline = p.block.outline := by
  cases p with
  | inline o => rfl
  | spread o inner => simp [mapLines, block, Block.outline]

theorem kind_mapLines (f : List Char → List Char) (p : Span) :
    (p.mapLines f).block.kind = p.block.kind :=
  congrArg (·.1) (outline_mapLines f p)

/-- A model declares what the codes of its lines say. -/
theorem draft?_mapLines_code (p : Span) :
    Schema.draft? (p.mapLines Comment.code).block = Schema.draft? p.block := by
  cases p with
  | inline o => rfl
  | spread o inner =>
    have hbody : Body.ofLines ((inner.map Comment.code).map String.ofList) =
        Body.ofLines (inner.map String.ofList) := by
      induction inner with
      | nil => rfl
      | cons l ls ih => simp only [List.map_cons, Body.ofLines, Body.ofLine_code, ih]
    simp only [Schema.draft?, mapLines, block, Body.ofLines_append, hbody]

end Span

namespace Scan

/-- What is the same of every block when its inner lines change, and keep their codes,
can be told from the changed lines. -/
theorem map_blocks_lines {β : Type} {g : List Char → List Char} {f : Block → β}
    (hcode : ∀ l, Comment.code (g l) = Comment.code l) (hreturn : ∀ l, g (l ++ ['\r']) = g l)
    (hf : ∀ p : Span, f (p.mapLines g).block = f p.block) (text : List Char) :
    (ofText text).blocks.map f =
      (Span.ofLines ((Text.lines text).map g)).map fun p => f p.block := by
  have hlines := Text.map_lines_joinLineEnds hreturn text
  rw [blocks_ofText, ← hlines, Span.ofLines_map hcode, List.map_map, List.map_map]
  exact (List.map_congr_left fun p _ => hf p).symm

theorem map_blocks_ofText {β : Type} {f : Block → β}
    (hf : ∀ p : Span, f (p.mapLines Comment.code).block = f p.block) (text : List Char) :
    (ofText text).blocks.map f = (Span.ofLines (codes text)).map fun p => f p.block :=
  map_blocks_lines Comment.code_code Comment.code_append_return hf text

/-- The outlines of the blocks can be told from the codes. -/
theorem outlines_ofText (text : List Char) :
    (ofText text).blocks.map Block.outline =
      (Span.ofLines (codes text)).map fun p => p.block.outline :=
  map_blocks_ofText (Span.outline_mapLines _) text

end Scan

namespace Schema

/-- The entities are what the blocks of the text declare. -/
theorem entities_parse_blocks (source : String) :
    (parse source).entities =
      resolveAll ((Scan.ofText (Text.joinLineEnds source.toList)).blocks.filterMap draft?) := rfl

/-- The entities are what the blocks in the codes declare. -/
theorem entities_parse (source : String) :
    (parse source).entities =
      resolveAll ((Span.ofLines (codes source.toList)).filterMap fun p => draft? p.block) := by
  have h := Scan.map_blocks_ofText Span.draft?_mapLines_code (Text.joinLineEnds source.toList)
  rw [codes_joinLineEnds] at h
  have hd := congrArg (List.filterMap id) h
  rw [List.filterMap_map, List.filterMap_map] at hd
  exact congrArg resolveAll hd

theorem kinds_parse (source : String) :
    (parse source).blocks.map (·.kind) =
      (Span.ofLines (codes source.toList)).map fun p => p.block.kind := by
  rw [← codes_joinLineEnds source.toList]
  exact Scan.map_blocks_ofText (Span.kind_mapLines _) _

theorem summary_parse (source : String) :
    (parse source).summary =
      .of ((parse source).blocks.map (·.kind)) (parse source).entities
        (codes source.toList).length := by
  rw [← codes_joinLineEnds source.toList, codes, List.length_map]
  rfl

/-- **Texts with the same codes declare the same.** -/
theorem parse_congr {s t : String} (h : codes s.toList = codes t.toList) :
    (parse s).entities = (parse t).entities ∧ (parse s).summary = (parse t).summary := by
  have he : (parse s).entities = (parse t).entities := by
    rw [entities_parse, entities_parse, h]
  refine ⟨he, ?_⟩
  rw [summary_parse, summary_parse, he, kinds_parse, kinds_parse, h]

end Schema
end SchemaDiagram
