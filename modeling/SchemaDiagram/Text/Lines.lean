/-
# Lines of a text

A text is cut into lines at line feeds. A carriage return before a line feed
belongs to the line end; on its own it is kept, except where a file is read
as text, where it ends a line too.

Key definitions: `Text.cutAt`, `Text.lines`, `Text.unlines`,
`Text.joinLineEnds`, `Text.unifyLineEnds`, `Text.contains`.
Key theorems: `Text.cutAt_ne_nil`, `Text.unlines_lines`.
-/

namespace SchemaDiagram
namespace Text

/-- The pieces of a text between the occurrences of a separator. -/
def cutAt {κ : Type} [DecidableEq κ] (sep : κ) : List κ → List (List κ)
  | [] => [[]]
  | c :: s =>
    if c = sep then [] :: cutAt sep s
    else match cutAt sep s with
      | [] => [[c]]
      | l :: ls => (c :: l) :: ls

/-- The lines of a text, without their line feeds; a text with `n` line feeds
has `n + 1` lines. -/
def lines (s : List Char) : List (List Char) :=
  cutAt '\n' s

/-- The lines joined by line feeds. -/
def unlines : List (List Char) → List Char
  | [] => []
  | [l] => l
  | l :: m :: ls => l ++ '\n' :: unlines (m :: ls)

/-- The text with the carriage return before each line feed removed. -/
def joinLineEnds : List Char → List Char
  | '\r' :: '\n' :: s => '\n' :: joinLineEnds s
  | c :: s => c :: joinLineEnds s
  | [] => []

/-- The text with every line end written as a line feed, lone carriage returns
included. -/
def unifyLineEnds : List Char → List Char
  | '\r' :: '\n' :: s => '\n' :: unifyLineEnds s
  | '\r' :: s => '\n' :: unifyLineEnds s
  | c :: s => c :: unifyLineEnds s
  | [] => []

/-- The pattern occurs somewhere in the text. -/
def contains (pattern : List Char) : List Char → Bool
  | [] => pattern.isEmpty
  | c :: s => pattern.isPrefixOf (c :: s) || contains pattern s

/-- The text before the last occurrence of a character. -/
def beforeLast (c : Char) (s : List Char) : List Char :=
  ((s.reverse.dropWhile (· ≠ c)).drop 1).reverse

theorem cutAt_ne_nil {κ : Type} [DecidableEq κ] (sep : κ) (s : List κ) : cutAt sep s ≠ [] := by
  cases s with
  | nil => simp [cutAt]
  | cons c s =>
    rw [cutAt]
    split
    · simp
    · split <;> simp

/-- Joining the lines of a text gives the text back. -/
theorem unlines_lines (s : List Char) : unlines (lines s) = s := by
  unfold lines
  induction s with
  | nil => rfl
  | cons c s ih =>
    rw [cutAt]
    have hne := cutAt_ne_nil '\n' s
    match hc : cutAt '\n' s with
    | [] => exact absurd hc hne
    | l :: ls =>
      rw [hc] at ih
      split
      · next h => rw [unlines, ih, h]; rfl
      · cases ls with
        | nil => simp_all [unlines]
        | cons m ls => simp_all [unlines]

end Text
end SchemaDiagram
