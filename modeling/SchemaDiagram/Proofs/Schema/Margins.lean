/-
# Blanks around lines say nothing

Indentation, blanks at the ends of lines and the way in which lines end make no
difference to what a text declares. Texts whose lines are the same once they are
trimmed have blocks that are the same once their body lines are trimmed, the same
entities and the same summary.

Key definitions: `Text.Widens`, `Text.trimmedLines`, `Block.trimmed`.
Key theorems: `Comment.code_trim`, `Scan.trimmed_ofText`,
`Schema.parse_of_trimmedLines`, `Schema.parse_widened`.
-/
import SchemaDiagram.Proofs.Schema.Codes

namespace SchemaDiagram

/-! ### Trimmed lines -/

namespace Text

/-- The second line is the first with blanks around it that are no line feeds. -/
def Widens (l m : List Char) : Prop :=
  ∃ a b, (∀ c ∈ a ++ b, isBlank c = true ∧ c ≠ '\n') ∧ m = a ++ (l ++ b)

theorem Widens.trim_eq {l m : List Char} (h : Widens l m) : trim m = trim l := by
  obtain ⟨a, b, hblank, rfl⟩ := h
  have ha : ∀ c ∈ a, isBlank c = true := fun c hc => (hblank c (List.mem_append_left b hc)).1
  have hb : ∀ c ∈ b, isBlank c = true := fun c hc => (hblank c (List.mem_append_right a hc)).1
  rw [trim_blank_append ha, trim_append_blank hb]

theorem Widens.oneLine {l m : List Char} (h : Widens l m) (hl : '\n' ∉ l) : '\n' ∉ m := by
  obtain ⟨a, b, hblank, rfl⟩ := h
  intro hm
  rcases List.mem_append.1 hm with ha | hm
  · exact (hblank _ (List.mem_append_left b ha)).2 rfl
  · rcases List.mem_append.1 hm with hl' | hb
    · exact hl hl'
    · exact (hblank _ (List.mem_append_right a hb)).2 rfl

/-- The lines of a text without the blanks around them. -/
def trimmedLines (text : List Char) : List (List Char) :=
  (lines text).map trim

theorem trimmedLines_unlines {ls : List (List Char)} (hne : ls ≠ []) (h : ∀ l ∈ ls, '\n' ∉ l) :
    trimmedLines (unlines ls) = ls.map trim := by
  rw [trimmedLines, lines_unlines hne h]

section Widened

variable {ls ms : List (List Char)}

theorem oneLine_of_widened (h : List.Forall₂ Widens ls ms) (hls : ∀ l ∈ ls, '\n' ∉ l) :
    ∀ m ∈ ms, '\n' ∉ m := by
  induction h with
  | nil => exact hls
  | cons hlm _ ih =>
    rw [List.forall_mem_cons] at hls ⊢
    exact ⟨hlm.oneLine hls.1, ih hls.2⟩

theorem map_trim_of_widened (h : List.Forall₂ Widens ls ms) : ms.map trim = ls.map trim := by
  induction h with
  | nil => rfl
  | cons hlm _ ih => rw [List.map_cons, List.map_cons, hlm.trim_eq, ih]

theorem trimmedLines_of_widened (hls : ∀ l ∈ ls, '\n' ∉ l) (h : List.Forall₂ Widens ls ms) :
    trimmedLines (unlines ms) = trimmedLines (unlines ls) := by
  by_cases hne : ls = []
  · obtain rfl := hne
    rw [List.forall₂_nil_left_iff.1 h]
  · have hne' : ms ≠ [] := fun hms => hne (by rwa [hms, List.forall₂_nil_right_iff] at h)
    rw [trimmedLines_unlines hne' (oneLine_of_widened h hls), trimmedLines_unlines hne hls,
      map_trim_of_widened h]

end Widened

end Text

theorem Comment.code_trim (l : List Char) : code (Text.trim l) = code l := by
  obtain ⟨a, ha, hstart⟩ := Text.exists_blank_append_trimStart l
  obtain ⟨b, hb, hend⟩ := Text.exists_trimEnd_append_blank (Text.trimStart l)
  calc code (Text.trim l) = code (Text.trim l ++ b) := (code_append_blank hb _).symm
    _ = code (Text.trimStart l) := congrArg code hend
    _ = code (a ++ Text.trimStart l) := (code_blank_append ha _).symm
    _ = code l := by rw [← hstart]

/-! ### Blocks -/

/-- The block with the blanks around its body lines taken off. -/
def Block.trimmed (b : Block) : Block :=
  { b with body := b.body.map Text.trimString }

theorem Block.outline_trimmed (b : Block) : b.trimmed.outline = b.outline := by
  simp [outline, trimmed]

theorem Text.trimString_ofList_trim (l : List Char) :
    trimString (String.ofList (trim l)) = trimString (String.ofList l) := by
  simp only [trimString, String.toList_ofList, trim_trim]

theorem Span.trimmed_mapLines (p : Span) :
    (p.mapLines Text.trim).block.trimmed = p.block.trimmed := by
  cases p with
  | inline o => rfl
  | spread o inner =>
    simp only [mapLines, block, Block.trimmed, List.map_append, List.map_map]
    congr 2
    exact List.map_congr_left fun l _ => Text.trimString_ofList_trim l

/-- The trimmed blocks can be told from the trimmed lines. -/
theorem Scan.trimmed_ofText (text : List Char) :
    (ofText text).blocks.map Block.trimmed =
      (Span.ofLines (Text.trimmedLines text)).map fun p => p.block.trimmed :=
  map_blocks_lines Comment.code_trim (Text.trim_append_blank (List.all_eq_true.1 rfl))
    Span.trimmed_mapLines text

namespace Schema

theorem codes_eq_of_trimmedLines {s t : List Char} (h : Text.trimmedLines s = Text.trimmedLines t) :
    codes s = codes t := by
  have hcodes : ∀ text, codes text = (Text.trimmedLines text).map Comment.code := by
    intro text
    rw [codes, Text.trimmedLines, List.map_map]
    exact List.map_congr_left fun l _ => (Comment.code_trim l).symm
  rw [hcodes, hcodes, h]

theorem trimmedLines_joinLineEnds (text : List Char) :
    Text.trimmedLines (Text.joinLineEnds text) = Text.trimmedLines text :=
  Text.map_lines_joinLineEnds (Text.trim_append_blank (List.all_eq_true.1 rfl)) text

/-- Texts with the same lines but for blanks around them declare the same. -/
theorem parse_of_trimmedLines {s t : String}
    (h : Text.trimmedLines s.toList = Text.trimmedLines t.toList) :
    (parse s).blocks.map Block.trimmed = (parse t).blocks.map Block.trimmed ∧
      (parse s).entities = (parse t).entities ∧ (parse s).summary = (parse t).summary := by
  refine ⟨?_, parse_congr (codes_eq_of_trimmedLines h)⟩
  have hblocks : ∀ source, (parse source).blocks.map Block.trimmed =
      (Span.ofLines (Text.trimmedLines source.toList)).map fun p => p.block.trimmed := by
    intro source
    rw [← trimmedLines_joinLineEnds]
    exact Scan.trimmed_ofText _
  rw [hblocks, hblocks, h]

/-- **Blanks around lines say nothing.** However many blanks other than line feeds,
carriage returns among them, are added at the ends of the lines of a text, its blocks
have the same kinds, names and numbers of body lines, and the body lines are the same
but for blanks around them; the entities and the summary are equal. -/
theorem parse_widened {ls ms : List (List Char)} (hls : ∀ l ∈ ls, '\n' ∉ l)
    (h : List.Forall₂ Text.Widens ls ms) :
    let s := String.ofList (Text.unlines ls)
    let t := String.ofList (Text.unlines ms)
    (parse t).blocks.map Block.outline = (parse s).blocks.map Block.outline ∧
      (parse t).blocks.map Block.trimmed = (parse s).blocks.map Block.trimmed ∧
      (parse t).entities = (parse s).entities ∧ (parse t).summary = (parse s).summary := by
  intro s t
  have hlines : Text.trimmedLines t.toList = Text.trimmedLines s.toList := by
    simp only [s, t, String.toList_ofList]
    exact Text.trimmedLines_of_widened hls h
  obtain ⟨htrimmed, hentities, hsummary⟩ := parse_of_trimmedLines hlines
  refine ⟨?_, htrimmed, hentities, hsummary⟩
  have houtlines := congrArg (List.map Block.outline) htrimmed
  simpa only [List.map_map, Function.comp_def, Block.outline_trimmed] using houtlines

/-- Tabs, carriage returns and a wide space around the lines of a model. -/
theorem parse_widened_returns :
    let ls := ["model A \x7b".toList, "b B? // it".toList, "\x7d".toList]
    let ms := ["\tmodel A \x7b \r".toList, "  b B? // it\r\r".toList, "\x7d\u3000".toList]
    (∀ l ∈ ls, '\n' ∉ l) ∧ List.Forall₂ Text.Widens ls ms ∧
      (parse (String.ofList (Text.unlines ms))).blocks.map Block.trimmed =
        (parse (String.ofList (Text.unlines ls))).blocks.map Block.trimmed ∧
      (parse (String.ofList (Text.unlines ms))).entities =
        (parse (String.ofList (Text.unlines ls))).entities ∧
      (parse (String.ofList (Text.unlines ms))).summary =
        (parse (String.ofList (Text.unlines ls))).summary := by
  intro ls ms
  have hls : ∀ l ∈ ls, '\n' ∉ l := by decide
  have hblank : ∀ a : List Char, (a.all fun c => Text.isBlank c && c != '\n') = true →
      ∀ c ∈ a, Text.isBlank c = true ∧ c ≠ '\n' := by
    intro a ha c hc
    simpa using List.all_eq_true.1 ha c hc
  have hwiden : List.Forall₂ Text.Widens ls ms :=
    .cons ⟨"\t".toList, " \r".toList, hblank _ (by decide), rfl⟩
      (.cons ⟨"  ".toList, "\r\r".toList, hblank _ (by decide), rfl⟩
        (.cons ⟨[], "\u3000".toList, hblank _ (by decide), rfl⟩ .nil))
  exact ⟨hls, hwiden, (parse_widened hls hwiden).2⟩

end Schema
end SchemaDiagram
