/-
# Declarations on one line

The body of a model written on one line is cut into tokens at blanks outside
strings and brackets, and the tokens are grouped into declarations: a name, a
type and the attributes after it, or an option on its own.

Key definitions: `Nesting`, `Nesting.step`, `Inline.tokens`, `Inline.grouped`,
`Inline.declarations`.
Key theorems: `Nesting.step_of_splits`.
-/
import SchemaDiagram.Schema.Comment

namespace SchemaDiagram

/-- How deep in brackets the reader is, and which quote opened the string it
is in, if any. -/
structure Nesting where
  depth : Nat
  quote : Quote
  deriving DecidableEq, Repr

namespace Nesting

/-- Outside every bracket and string. -/
def outside : Nesting := ⟨0, none⟩

/-- Inside a string only its own quote counts; a closing bracket without an
opening one is ignored. -/
def step (n : Nesting) (c : Char) : Nesting :=
  match n.quote with
  | some q => if c = q then ⟨n.depth, none⟩ else n
  | none =>
    if isQuote c then ⟨n.depth, some c⟩
    else if c = '(' || c = '[' then ⟨n.depth + 1, none⟩
    else if c = ')' || c = ']' then ⟨n.depth - 1, none⟩
    else n

/-- The character ends a token. -/
def splits (n : Nesting) (c : Char) : Bool :=
  n.quote.isNone && n.depth == 0 && Text.isBlank c

end Nesting

namespace Inline

/-- The rest of the token being read and the tokens after it. -/
def scan (n : Nesting) : List Char → List Char × List (List Char)
  | [] => ([], [])
  | c :: s =>
    if n.splits c then
      match scan n s with
      | ([], ts) => ([], ts)
      | (t, ts) => ([], t :: ts)
    else
      match scan (n.step c) s with
      | (t, ts) => (c :: t, ts)

/-- The tokens of a text; brackets and quotes keep a token whole. -/
def tokens (s : List Char) : List (List Char) :=
  match scan .outside s with
  | ([], ts) => ts
  | (t, ts) => t :: ts

/-- A token that stands for a model option. -/
def isOption (t : List Char) : Bool :=
  ['@', '@'].isPrefixOf t

/-- A token that belongs to the declaration before it. -/
def isAttribute (t : List Char) : Bool :=
  ['@'].isPrefixOf t

/-- A declaration in the making, when there is one. -/
def flush (group : List (List Char)) : List (List (List Char)) :=
  if group.isEmpty then [] else [group]

/-- The tokens gathered into declarations, the first of which has already
taken the tokens of `group`. -/
def grouped (group : List (List Char)) : List (List Char) → List (List (List Char))
  | [] => flush group
  | t :: ts =>
    if isOption t then flush group ++ [t] :: grouped [] ts
    else if isAttribute t || decide (group.length < 2) then grouped (group ++ [t]) ts
    else group :: grouped [t] ts

/-- Tokens joined by single spaces. -/
def spaced : List (List Char) → List Char
  | [] => []
  | [t] => t
  | t :: u :: ts => t ++ ' ' :: spaced (u :: ts)

/-- One line for each declaration of a one-line model body. -/
def declarations (s : List Char) : List (List Char) :=
  (grouped [] (tokens s)).map spaced

end Inline

/-- A character that ends a token leaves the nesting as it is. -/
theorem Nesting.step_of_splits {n : Nesting} {c : Char} (h : n.splits c = true) : n.step c = n := by
  obtain ⟨d, q⟩ := n
  simp only [Nesting.splits, Bool.and_eq_true, Option.isNone_iff_eq_none, beq_iff_eq] at h
  obtain ⟨⟨rfl, rfl⟩, hc⟩ := h
  have hq : isQuote c = false := by
    cases hq : isQuote c with
    | false => rfl
    | true =>
      simp only [isQuote, Bool.or_eq_true, beq_iff_eq] at hq
      rcases hq with rfl | rfl <;> exact absurd hc (by decide)
  have hb : ∀ d ∈ ['(', '[', ')', ']'], c ≠ d := by
    rintro d hd rfl
    revert hc
    simp only [List.mem_cons, List.not_mem_nil, or_false] at hd
    rcases hd with rfl | rfl | rfl | rfl <;> decide
  simp [Nesting.step, hq, hb '(' (by simp), hb '[' (by simp), hb ')' (by simp), hb ']' (by simp)]

end SchemaDiagram
