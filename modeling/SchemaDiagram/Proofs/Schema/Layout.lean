/-
# Layouts of a model

A model may be written on one line or spread over several, with each declaration
on a line of its own. Either way it is read as the same block, so a text declares
the same entities whatever layout each of its models has.

Key definitions: `Compact.Layout`, `Compact.Model.lines`, `Compact.text`.
Key theorems: `Compact.Model.ofLines_lines`, `Compact.blocks_text`,
`Compact.read_in_any_layout`.
-/
import SchemaDiagram.Proofs.Schema.Codes
import SchemaDiagram.Proofs.Schema.Compact

namespace SchemaDiagram

theorem Inline.scan_blank {s : List Char} (h : ∀ c ∈ s, Text.isBlank c = true) :
    scan .outside s = ([], []) := by
  induction s with
  | nil => rfl
  | cons c s ih =>
    have hsplits : Nesting.splits .outside c = true := by
      simp [Nesting.splits, Nesting.outside, h c List.mem_cons_self]
    rw [scan, if_pos hsplits, ih fun d hd => h d (List.mem_cons_of_mem _ hd)]

/-- A blank body declares nothing, so it need not be told apart. -/
theorem Scan.inlineBody_model (s : List Char) :
    inlineBody .model s = (Inline.declarations s).map String.ofList := by
  unfold inlineBody
  split
  · next h =>
    have hblank := Text.trim_eq_nil_iff.1 (List.isEmpty_iff.1 h)
    rw [Inline.declarations, Inline.tokens, Inline.scan_blank hblank]
    rfl
  · rfl

namespace Compact

/-- Where the declarations of a model stand. -/
inductive Layout where
  | line
  | spread

namespace Model

/-- The line up to the opening brace. -/
def header (m : Model) : List Char :=
  "model ".toList ++ (m.name.chars ++ " \x7b".toList)

/-- The model on one line. -/
def line (m : Model) : List Char :=
  m.header ++ (m.inner ++ ['}'])

/-- The lines of the model. -/
def lines (m : Model) : Layout → List (List Char)
  | .line => [m.line]
  | .spread => m.header :: (m.declarations.map Declaration.chars ++ [['}']])

end Model

/-- The text of some models, each in its layout, one below the other. -/
def text (ms : List (Layout × Model)) : String :=
  String.ofList (Text.unlines (ms.flatMap fun p => p.2.lines p.1))

namespace Model

/-! ### Lines -/

theorem inner_eq_append (m : Model) :
    m.inner = [' '] ++ padded (m.declarations.flatMap Declaration.tokens) :=
  m.inner_eq_padded

theorem delta_inner (m : Model) : Opener.delta m.inner = 0 := by
  rw [m.inner_eq_append, Opener.delta_append, delta_padded]
  decide

theorem cut_inner (m : Model) : Comment.cut false none (m.inner ++ ['}']) = none := by
  rw [m.inner_eq_append, List.append_assoc, Comment.cut_plain_append (List.all_eq_true.1 rfl),
    cut_padded _ (Comment.cut_singleton _ _ _), Option.map_none]

theorem match?_line (m : Model) :
    Opener.match? (Comment.strip m.line) =
      some ⟨.model, String.ofList m.name.chars, m.inner ++ ['}']⟩ := by
  refine Opener.match?_model m.name.ne_nil m.name.isWord m.cut_inner ?_
  rw [List.getLast?_concat]
  exact Text.forall_mem_head?_cons (by decide) []

theorem match?_header (m : Model) :
    Opener.match? (Comment.strip m.header) = some ⟨.model, String.ofList m.name.chars, []⟩ := by
  have h := Opener.match?_model m.name.ne_nil m.name.isWord (Comment.cut_nil _ _) nofun
  rwa [List.append_nil] at h

/-- A model on one line is its block. -/
theorem block_line (m : Model) :
    (Span.inline ⟨.model, String.ofList m.name.chars, m.inner ++ ['}']⟩).block = m.block := by
  rw [Span.block, Text.beforeLast_concat, Scan.inlineBody_model, m.declarations_inner, List.map_map]
  rfl

/-- A model over several lines is its block. -/
theorem block_spread (m : Model) :
    (Span.spread ⟨.model, String.ofList m.name.chars, []⟩
      (m.declarations.map Declaration.chars)).block = m.block := by
  rw [Span.block, List.map_map]
  rfl

/-- In either layout a model is its block, and what comes after it is read from the
start. -/
theorem ofLines_lines (m : Model) (layout : Layout) (ls : List (List Char)) :
    (Span.ofLines (m.lines layout ++ ls)).map Span.block =
      m.block :: (Span.ofLines ls).map Span.block := by
  cases layout with
  | line =>
    have hopen : Span.openAfter ⟨.model, String.ofList m.name.chars, m.inner ++ ['}']⟩ = 0 := by
      rw [Span.openAfter, Opener.delta_append, m.delta_inner]
      rfl
    rw [lines, List.singleton_append, Span.ofLines_cons_inline m.match?_line (Int.le_of_eq hopen),
      List.map_cons, m.block_line]
  | spread =>
    have hclosed : ∀ l ∈ m.declarations.map Declaration.chars,
        Opener.delta (Comment.strip l) = 0 := by
      intro l hl
      obtain ⟨d, -, rfl⟩ := List.mem_map.1 hl
      rw [Comment.strip_of_cut_none d.cut_chars, d.delta_chars]
    obtain ⟨hinside, hbeyond⟩ := Span.inside_of_closed hclosed ls
    have hopen : Span.openAfter ⟨.model, String.ofList m.name.chars, []⟩ = 1 := rfl
    rw [lines, List.cons_append, List.append_assoc, List.singleton_append,
      Span.ofLines_cons_spread m.match?_header (by rw [hopen]; decide), hopen, hinside, hbeyond,
      List.map_cons, m.block_spread]

theorem lines_ne_nil (m : Model) (layout : Layout) : m.lines layout ≠ [] := by
  cases layout <;> exact List.cons_ne_nil _ _

theorem mem_lines_spread {m : Model} {l : List Char} :
    l ∈ m.lines .spread ↔
      l = m.header ∨ (∃ d ∈ m.declarations, d.chars = l) ∨ l = ['}'] := by
  simp only [lines, List.mem_cons, List.mem_append, List.mem_map, List.not_mem_nil, or_false]

theorem header_eq (m : Model) :
    m.header = "model ".toList ++ (m.name.chars ++ " \x7b".toList) := rfl

theorem oneLine_header (m : Model) : '\n' ∉ m.header := by
  have hname := (ofWord m.name).oneLine
  simp only [header_eq, List.mem_append, not_or]
  exact ⟨by decide, hname, by decide⟩

theorem oneLine_line (m : Model) : '\n' ∉ m.line := by
  have hinner := oneLine_padded (m.declarations.flatMap Declaration.tokens)
  rw [line, m.inner_eq_padded]
  simp only [List.mem_append, List.mem_cons, not_or]
  exact ⟨m.oneLine_header, ⟨by decide, hinner⟩, by decide, List.not_mem_nil⟩

theorem oneLine (m : Model) (layout : Layout) : ∀ l ∈ m.lines layout, '\n' ∉ l := by
  intro l hl
  cases layout with
  | line =>
    rw [List.mem_singleton.1 hl]
    exact m.oneLine_line
  | spread =>
    rcases mem_lines_spread.1 hl with rfl | ⟨d, -, rfl⟩ | rfl
    · exact m.oneLine_header
    · exact d.oneLine
    · decide

/-- No line of a model ends with a blank, not even with a carriage return. -/
theorem isBlank_getLast (m : Model) (layout : Layout) :
    ∀ l ∈ m.lines layout, ∀ c ∈ l.getLast?, Text.isBlank c = false := by
  have hbrace : ∀ s, ∀ c ∈ (s ++ ['}']).getLast?, Text.isBlank c = false := by
    intro s
    rw [List.getLast?_concat]
    exact Text.forall_mem_head?_cons (by decide) []
  intro l hl
  cases layout with
  | line =>
    rw [List.mem_singleton.1 hl, line, ← List.append_assoc]
    exact hbrace _
  | spread =>
    rcases mem_lines_spread.1 hl with rfl | ⟨d, -, rfl⟩ | rfl
    · exact Opener.isBlank_getLast_header m.name.chars
    · exact d.isBlank_getLast
    · exact hbrace []

end Model

/-! ### Texts -/

theorem lines_text {ms : List (Layout × Model)} (h : ms ≠ []) :
    Text.lines (text ms).toList = ms.flatMap fun p => p.2.lines p.1 := by
  rw [text, String.toList_ofList, Text.lines_unlines]
  · obtain ⟨p, ps, rfl⟩ := List.exists_cons_of_ne_nil h
    rw [List.flatMap_cons]
    exact List.append_ne_nil_of_left_ne_nil (p.2.lines_ne_nil p.1) _
  · intro l hl
    obtain ⟨p, -, hl⟩ := List.mem_flatMap.1 hl
    exact p.2.oneLine p.1 l hl

theorem joinLineEnds_text (ms : List (Layout × Model)) :
    Text.joinLineEnds (text ms).toList = (text ms).toList := by
  cases ms with
  | nil => rw [text, String.toList_ofList]; rfl
  | cons p ps =>
    refine Text.joinLineEnds_eq_self_of_lines fun l hl hreturn => ?_
    rw [lines_text (List.cons_ne_nil p ps)] at hl
    obtain ⟨q, -, hl⟩ := List.mem_flatMap.1 hl
    exact absurd (q.2.isBlank_getLast q.1 l hl '\r' hreturn) (by decide)

theorem blocks_lines (ms : List (Layout × Model)) :
    (Span.ofLines (ms.flatMap fun p => p.2.lines p.1)).map Span.block =
      ms.map fun p => p.2.block := by
  induction ms with
  | nil => rw [List.flatMap_nil, Span.ofLines_nil]; rfl
  | cons p ps ih => rw [List.flatMap_cons, p.2.ofLines_lines, ih, List.map_cons]

/-- The blocks of a text are its models. -/
theorem blocks_text (ms : List (Layout × Model)) :
    (Scan.ofText (text ms).toList).blocks = ms.map fun p => p.2.block := by
  rw [Scan.blocks_ofText, joinLineEnds_text]
  cases ms with
  | nil =>
    -- the text of no models is one blank line
    have hblank : Text.lines (text []).toList = [[]] := by
      rw [text, String.toList_ofList]
      rfl
    rw [hblank, Span.ofLines_cons_of_none (by decide), Span.ofLines_nil]
    rfl
  | cons p ps => rw [lines_text (List.cons_ne_nil p ps), blocks_lines]

theorem entities_text (ms : List (Layout × Model)) :
    (Schema.parse (text ms)).entities =
      resolveAll ((ms.map fun p => p.2.block).filterMap Schema.draft?) := by
  rw [Schema.entities_parse_blocks, joinLineEnds_text, blocks_text]

theorem entities_spread (ms : List (Layout × Model)) :
    (Schema.parse (text ms)).entities =
      (Schema.parse (text (ms.map fun p => (.spread, p.2)))).entities := by
  rw [entities_text, entities_text, List.map_map]
  rfl

/-- **The layout of a model does not matter.** A model on one line is read as the block
that has each declaration on a line of its own, and declares the same entities as the
model spread over several lines; so does every text in which models of either layout
stand one below the other. -/
theorem read_in_any_layout :
    (∀ m : Model, (Scan.ofText m.line).blocks = [m.block] ∧
      (Schema.parse (String.ofList m.line)).entities =
        (Schema.parse (String.ofList (Text.unlines (m.lines .spread)))).entities) ∧
    ∀ ms : List (Layout × Model),
      (Scan.ofText (text ms).toList).blocks = ms.map (fun p => p.2.block) ∧
      (Schema.parse (text ms)).entities =
        (Schema.parse (text (ms.map fun p => (.spread, p.2)))).entities := by
  refine ⟨fun m => ?_, fun ms => ⟨blocks_text ms, entities_spread ms⟩⟩
  have hline : text [(.line, m)] = String.ofList m.line := rfl
  have hspread : text [(.spread, m)] = String.ofList (Text.unlines (m.lines .spread)) := by
    rw [text, List.flatMap_singleton]
  have hblocks := blocks_text [(.line, m)]
  have hentities := entities_spread [(.line, m)]
  rw [hline, String.toList_ofList] at hblocks
  rw [hline, List.map_singleton, hspread] at hentities
  exact ⟨hblocks, hentities⟩

end Compact
end SchemaDiagram
