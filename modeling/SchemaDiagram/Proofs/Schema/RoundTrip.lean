/-
# Reading undoes writing

A schema that is written down is read as it was meant: the entities of the text
are the written ones, in order, with their relations resolved. Indentation,
blank lines and comments leave no trace, and the text that a field is said to
come from is the field as it is written, without its margin.

Key theorems: `Written.AttributeText.scan_tail`, `Written.Row.ofLine_content`,
`Written.ofLines_parts`, `Written.parse_text`.
-/
import SchemaDiagram.Proofs.Schema.Attribute
import SchemaDiagram.Proofs.Schema.Codes
import SchemaDiagram.Proofs.Schema.Content
import SchemaDiagram.Proofs.Schema.Field

namespace SchemaDiagram
namespace Written

/-! ### Body lines -/

/-- The attributes of a field are found one by one. -/
theorem scan_tail (as : List AttributeText) :
    Attribute.scan (as.flatMap fun a => ' ' :: a.chars) = as.map AttributeText.chars := by
  induction as with
  | nil => rw [List.flatMap_nil, Attribute.scan_nil, List.map_nil]
  | cons a as ih =>
    set rest := as.flatMap fun a => ' ' :: a.chars with hrest
    have hhead : ∀ c ∈ rest.head?, c = ' ' := by
      cases as with
      | nil => simp [hrest]
      | cons b bs => simp [hrest, List.flatMap_cons]
    rw [List.flatMap_cons, ← hrest, List.cons_append, Attribute.scan_cons_of_ne (by decide),
      List.map_cons, AttributeText.chars]
    split
    · have hw : ∀ c ∈ rest.head?, Text.isWord c = false := fun c hc => by
        rw [hhead c hc]
        decide
      have hopen : ¬ (rest.head? = some '(' ∧ ')' ∈ rest) :=
        fun h => absurd (hhead '(' h.1) (by decide)
      rw [List.cons_append, Attribute.scan_bare a.name.ne_nil a.name.isWord hw hopen, ih]
    · next args _ =>
      rw [List.cons_append, List.append_assoc, List.cons_append, List.append_assoc,
        List.singleton_append, Attribute.scan_called a.name.ne_nil a.name.isWord args.notClosed,
        ih]

theorem FieldText.match?_chars (f : FieldText) : Field.match? f.chars = some f.field := by
  have hhead : ∀ c ∈ f.tail.head?, Text.isBlank c = true := fun c hc => by
    rw [f.head_tail c hc]
    decide
  have hblank : ∀ c ∈ [' '], Text.isBlank c = true := List.all_eq_true.1 rfl
  rw [FieldText.chars, Field.match?_eq_some f.name.ne_nil f.name.isWord (by simp) hblank
    f.type.ne_nil f.type.notBlank hhead, FieldText.tail, scan_tail, List.map_map]
  rfl

/-- A row declares what it was written for. -/
theorem Row.ofLine_content (r : Row) : Body.ofLine (String.ofList r.content) = r.body := by
  rw [← r.code_chars, Body.ofLine_code, Body.ofLine_eq, String.toList_ofList, r.code_chars]
  cases r with
  | filler f => rfl
  | declaration m d =>
    cases d with
    | field f =>
      have hopt : Inline.isOption f.chars = false := by
        rw [FieldText.chars]
        cases h : f.name.chars with
        | nil => exact absurd h f.name.ne_nil
        | cons c w =>
          have hc := f.name.isWord c (by rw [h]; exact List.mem_cons_self)
          have hat : c ≠ '@' := fun he => absurd (he ▸ hc) (by decide)
          simp [Inline.isOption, List.isPrefixOf, hat.symm]
      simp only [Row.content, Declaration.chars, hopt, f.match?_chars]
      rfl
    | option o =>
      have hopt : Inline.isOption o.chars = true := List.isPrefixOf_iff_prefix.2 o.marked
      simp only [Row.content, Declaration.chars, hopt]
      rfl

theorem ofLines_rows (rs : List Row) :
    Body.ofLines ((rs.map Row.content).map String.ofList) =
      rs.foldr (fun r b => r.body.append b) .empty := by
  induction rs with
  | nil => rfl
  | cons r rs ih => simp only [List.map_cons, Body.ofLines, r.ofLine_content, ih, List.foldr_cons]

/-! ### Blocks -/

theorem ModelText.match?_header (m : ModelText) :
    Opener.match? (Comment.strip m.header) = some ⟨.model, String.ofList m.name.chars, []⟩ := by
  have h := Opener.match?_model m.name.ne_nil m.name.isWord (Comment.cut_nil _ _) nofun
  rwa [List.append_nil] at h

theorem Row.delta_content (r : Row) : Opener.delta (Comment.strip r.content) = 0 := by
  have h := r.braceless
  rw [← Opener.delta_code, ← r.code_chars, Comment.code_code, r.code_chars, Opener.delta,
    List.count_eq_zero.2 h.1, List.count_eq_zero.2 h.2]
  rfl

/-- The codes of the lines of a model. -/
def ModelText.codes (m : ModelText) : List (List Char) :=
  m.header :: (m.rows.map Row.content ++ [['}']])

theorem ModelText.map_code_lines (m : ModelText) : m.lines.map Comment.code = m.codes := by
  rw [lines, List.map_cons, m.opening.code_around (isContent_header m), List.map_append,
    List.map_map, List.map_singleton, m.closing.code_around isContent_brace, codes]
  congr 3
  funext r
  exact r.code_chars

theorem ModelText.ofLines_codes (m : ModelText) (ls : List (List Char)) :
    Span.ofLines (m.codes ++ ls) =
      .spread ⟨.model, String.ofList m.name.chars, []⟩ (m.rows.map Row.content) ::
        Span.ofLines ls := by
  have hclosed : ∀ l ∈ m.rows.map Row.content, Opener.delta (Comment.strip l) = 0 := by
    intro l hl
    obtain ⟨r, -, rfl⟩ := List.mem_map.1 hl
    exact r.delta_content
  obtain ⟨hinside, hbeyond⟩ := Span.inside_of_closed hclosed ls
  have hopen : Span.openAfter ⟨.model, String.ofList m.name.chars, []⟩ = 1 := rfl
  rw [codes, List.cons_append, List.append_assoc, List.singleton_append,
    Span.ofLines_cons_spread m.match?_header (by rw [hopen]; decide), hopen, hinside, hbeyond]

theorem ModelText.draft?_span (m : ModelText) :
    Schema.draft? (Span.spread ⟨.model, String.ofList m.name.chars, []⟩
      (m.rows.map Row.content)).block = some m.entity := by
  simp only [Schema.draft?, Span.block, if_true, ModelText.entity, ModelText.body, ← ofLines_rows]
  rfl

/-- The models of a text are its blocks. -/
theorem ofLines_parts (parts : List Part) :
    (Span.ofLines ((parts.flatMap Part.lines).map Comment.code)).filterMap
      (fun p => Schema.draft? p.block) = entities parts := by
  induction parts with
  | nil => rw [List.flatMap_nil, List.map_nil, Span.ofLines_nil]; rfl
  | cons part parts ih =>
    rw [List.flatMap_cons, List.map_append]
    cases part with
    | filler f =>
      rw [Part.lines, List.map_singleton, f.code_chars, List.singleton_append,
        Span.ofLines_cons_of_none (by decide), ih]
      rfl
    | model m =>
      simp only [Part.lines, m.map_code_lines, m.ofLines_codes, List.filterMap_cons,
        m.draft?_span, ih]
      rfl

/-! ### Texts -/

theorem Part.oneLine (p : Part) : ∀ l ∈ p.lines, '\n' ∉ l := by
  cases p with
  | filler f =>
    intro l hl
    rw [List.mem_singleton.1 hl]
    exact f.oneLine
  | model m =>
    intro l hl
    simp only [Part.lines, ModelText.lines, List.mem_cons, List.mem_append, List.mem_map,
      List.not_mem_nil, or_false] at hl
    rcases hl with rfl | ⟨r, -, rfl⟩ | rfl
    · exact m.opening.oneLine_around (isContent_header m).oneLine
    · exact r.oneLine
    · exact m.closing.oneLine_around isContent_brace.oneLine

/-- **Reading undoes writing.** -/
theorem parse_text (parts : List Part) :
    (Schema.parse (text parts)).entities = resolveAll (entities parts) := by
  have hlines : ∀ l ∈ parts.flatMap Part.lines, '\n' ∉ l := by
    intro l hl
    obtain ⟨p, -, hl⟩ := List.mem_flatMap.1 hl
    exact p.oneLine l hl
  rw [Schema.entities_parse, text, String.toList_ofList, codes, ← ofLines_parts]
  by_cases hnil : parts.flatMap Part.lines = []
  · rw [hnil]
    -- the text of no lines is one blank line
    rw [Text.unlines, Text.lines_of_not_mem List.not_mem_nil, List.map_singleton,
      Span.ofLines_cons_of_none (by decide), List.map_nil]
  · rw [Text.lines_unlines hnil hlines]

end Written
end SchemaDiagram
