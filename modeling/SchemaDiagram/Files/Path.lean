/-
# Paths

A path is a root and the names below it. Written paths are brought to one form:
empty names and single dots are dropped, double dots are kept, and a path
without names below no root is a single dot. Two slashes at the beginning are a
root of their own; more are one. A path that was written in a document may hold
halves of surrogate pairs; it can be shown but leads nowhere.

Key definitions: `Path`, `Path.parse`, `Path.text`, `Path.name`,
`Path.flattened`.
-/
import SchemaDiagram.Text.Lines
import SchemaDiagram.Text.Loose

namespace SchemaDiagram

/-- A root (empty for a relative path) and the names below it. -/
structure Path where
  root : String
  parts : List LooseText
  deriving DecidableEq, Repr

namespace Path

/-- The root that a written path starts with. -/
def rootOf : List CodePoint → String
  | .char '/' :: .char '/' :: .char '/' :: _ => "/"
  | .char '/' :: .char '/' :: _ => "//"
  | .char '/' :: _ => "/"
  | _ => ""

/-- The names in a written path. -/
def partsOf (s : List CodePoint) : List LooseText :=
  ((Text.cutAt (.char '/') s).map .mk).filter fun p => p ≠ "" && p ≠ "."

/-- The path that a text stands for. -/
def parse (t : LooseText) : Path :=
  ⟨rootOf t.points, partsOf t.points⟩

/-- The names with slashes between them. -/
def joined : List LooseText → LooseText
  | [] => ""
  | [p] => p
  | p :: ps => p ++ "/" ++ joined ps

/-- The written form of a path. -/
def text (p : Path) : LooseText :=
  if p.root.isEmpty && p.parts.isEmpty then "." else p.root ++ joined p.parts

/-- The last name, empty if there is none. -/
def name (p : Path) : LooseText :=
  p.parts.getLast?.getD ""

/-- A name put below names that are followed without looking: double dots take
the last one back. Above a root there is nothing. -/
def flattenStep (root : String) (names : List LooseText) (name : LooseText) : List LooseText :=
  if name ≠ ".." then names ++ [name]
  else if names.getLast?.any (· ≠ LooseText.ofString "..") then names.dropLast
  else if root = "" then names ++ [name]
  else names

/-- The path with its double dots followed by name. -/
def flattened (p : Path) : Path :=
  { p with parts := p.parts.foldl (flattenStep p.root) [] }

end Path
end SchemaDiagram
