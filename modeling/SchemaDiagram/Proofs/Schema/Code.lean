/-
# The code of a line

The code of a line is what is left of it without its comment and without the
blanks around it. It is all that the reader goes by: whether the line opens a
block, how many braces it leaves open and what it declares can be told from its
code. Stripping the comment or adding blanks at either end leaves the code as it
is.

Key definitions: `Comment.code`.
Key theorems: `code_strip`, `code_code`, `code_blank_append`,
`code_append_blank`, `code_append_comment`, `Opener.match?_code`,
`Opener.delta_code`, `Body.ofLine_code`.
-/
import SchemaDiagram.Proofs.Schema.Comment
import SchemaDiagram.Schema.Body
import SchemaDiagram.Schema.Opener

namespace SchemaDiagram
namespace Comment

/-- A line without its comment and the blanks around it. -/
def code (l : List Char) : List Char :=
  Text.trim (strip l)

theorem code_strip (l : List Char) : code (strip l) = code l := by
  rw [code, strip_strip, code]

theorem cut_trimStart {l : List Char} (h : cut false none l = none) :
    cut false none (Text.trimStart l) = none := by
  obtain ⟨b, hb, hl⟩ := Text.exists_blank_append_trimStart l
  rw [hl, cut_plain_append fun c hc => isPlain_of_isBlank (hb c hc), Option.map_eq_none_iff] at h
  exact h

theorem cut_code (l : List Char) : cut false none (code l) = none :=
  cut_eq_none_of_prefix (cut_trimStart (cut_strip l)) (Text.trimEnd_prefix _)

theorem strip_code (l : List Char) : strip (code l) = code l :=
  strip_of_cut_none (cut_code l)

theorem code_code (l : List Char) : code (code l) = code l := by
  rw [code, strip_code, code, Text.trim_trim]

/-- Blanks before a line are not part of its code. -/
theorem code_blank_append {b : List Char} (h : ∀ c ∈ b, Text.isBlank c = true) (l : List Char) :
    code (b ++ l) = code l := by
  have hb := cut_plain_append (fun c hc => isPlain_of_isBlank (h c hc)) l
  cases hl : cut false none l with
  | none =>
    rw [hl, Option.map_none] at hb
    rw [code, strip_of_cut_none hb, Text.trim_blank_append h, code, strip_of_cut_none hl]
  | some x =>
    rw [hl, Option.map_some] at hb
    rw [code, strip_of_cut_some hb, Text.trim_trimEnd, Text.trim_blank_append h, code,
      strip_of_cut_some hl, Text.trim_trimEnd]

/-- Blanks after a line are not part of its code. -/
theorem code_append_blank {b : List Char} (h : ∀ c ∈ b, Text.isBlank c = true) (l : List Char) :
    code (l ++ b) = code l := by
  have hs : '/' ∉ b := fun hm => absurd (h _ hm) (by decide)
  have hb := cut_append_of_not_mem hs false none l
  cases hl : cut false none l with
  | none =>
    rw [hl] at hb
    rw [code, strip_of_cut_none hb, Text.trim_append_blank h, code, strip_of_cut_none hl]
  | some x =>
    rw [hl] at hb
    rw [code, strip_of_cut_some hb, code, strip_of_cut_some hl]

theorem code_append_return (l : List Char) : code (l ++ ['\r']) = code l :=
  code_append_blank (List.all_eq_true.1 rfl) l

/-- A line without two slashes in a row and without a blank at either end is its
own code. -/
theorem code_eq_self {l : List Char} (h : ¬ ['/', '/'] <:+: l)
    (hh : ∀ c ∈ l.head?, Text.isBlank c = false) (hl : ∀ c ∈ l.getLast?, Text.isBlank c = false) :
    code l = l := by
  rw [code, strip_of_cut_none (cut_eq_none_of_no_slashes h _ _), Text.trim_eq_self hh hl]

/-- A comment after a blank is not part of the code. -/
theorem code_append_comment {l : List Char} (hq : ∀ c ∈ l, isQuote c = false)
    (h : ¬ ['/', '/'] <:+: l) (r : List Char) : code (l ++ ' ' :: '/' :: '/' :: r) = code l := by
  have hcut := cut_eq_none_of_no_slashes h false none
  have hcut' : cut false none (l ++ [' ']) = none := by
    rwa [cut_append_of_not_mem (by decide)]
  have hnone : Quote.after (l ++ [' ']) = none := by
    refine Quote.run_of_not_quote (fun c hc => ?_) _ _
    rcases List.mem_append.1 hc with hc | hc
    · exact hq c hc
    · rw [List.mem_singleton.1 hc]; rfl
  have hs := strip_append_comment r hcut' hnone (by simp)
  rw [List.append_assoc] at hs
  rw [code, show l ++ ' ' :: '/' :: '/' :: r = l ++ ([' '] ++ '/' :: '/' :: r) from rfl, hs,
    Text.trim_trimEnd, Text.trim_append_blank (List.all_eq_true.1 rfl), code, strip_of_cut_none hcut]

end Comment

/-! ### What is read off the code -/

theorem Opener.match?_trim (l : List Char) : match? (Text.trim l) = match? l := by
  rw [match?, Text.trim_trim, match?]

theorem Opener.match?_code (l : List Char) : match? (Comment.code l) = match? (Comment.strip l) :=
  match?_trim _

theorem Opener.delta_code (l : List Char) : delta (Comment.code l) = delta (Comment.strip l) := by
  rw [delta, delta, Comment.code, Text.count_trim (by decide), Text.count_trim (by decide)]

theorem Opener.match?_strip_congr {l m : List Char} (h : Comment.code l = Comment.code m) :
    match? (Comment.strip l) = match? (Comment.strip m) := by
  rw [← match?_code, h, match?_code]

theorem Opener.delta_strip_congr {l m : List Char} (h : Comment.code l = Comment.code m) :
    delta (Comment.strip l) = delta (Comment.strip m) := by
  rw [← delta_code, h, delta_code]

/-- The line read as a declaration is its code. -/
theorem Body.ofLine_eq (raw : String) :
    ofLine raw =
      if Inline.isOption (Comment.code raw.toList) then
        ⟨[], [String.ofList (Comment.code raw.toList)]⟩
      else ⟨(Field.match? (Comment.code raw.toList)).toList, []⟩ := rfl

theorem Body.ofLine_code (l : List Char) :
    ofLine (String.ofList (Comment.code l)) = ofLine (String.ofList l) := by
  simp only [ofLine_eq, String.toList_ofList, Comment.code_code]

end SchemaDiagram
