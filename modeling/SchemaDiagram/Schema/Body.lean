/-
# The body of a model

A body line, without its comment and the blanks around it, is an option if it
starts with two at signs and a field if it starts with a word, blanks and a
type. Other lines say nothing.

Key definitions: `Field.match?`, `Body`, `Body.ofLines`.
Key theorems: `Body.ofLines_append`.
-/
import SchemaDiagram.Schema.Basic
import SchemaDiagram.Schema.Attribute
import SchemaDiagram.Schema.Inline

namespace SchemaDiagram

/-- The field on a line: a word, blanks, a type without blanks, and attributes. -/
def Field.match? (line : List Char) : Option Field :=
  let name := line.takeWhile Text.isWord
  let gap := line.dropWhile Text.isWord
  let typed := Text.trimStart gap
  if name.isEmpty || typed.length = gap.length || typed.isEmpty then none
  else
    let type := typed.takeWhile fun c => !Text.isBlank c
    let tail := typed.dropWhile fun c => !Text.isBlank c
    some ⟨String.ofList name, String.ofList type, (Attribute.scan tail).map String.ofList,
      String.ofList line, false⟩

/-- What the lines of a model declare. -/
structure Body where
  fields : List Field
  options : List String
  deriving DecidableEq, Repr

namespace Body

def empty : Body := ⟨[], []⟩

def append (a b : Body) : Body := ⟨a.fields ++ b.fields, a.options ++ b.options⟩

/-- What one line declares. -/
def ofLine (raw : String) : Body :=
  let line := Text.trim (Comment.strip raw.toList)
  if Inline.isOption line then ⟨[], [String.ofList line]⟩
  else ⟨(Field.match? line).toList, []⟩

/-- What all lines declare, in order. -/
def ofLines : List String → Body
  | [] => empty
  | l :: ls => (ofLine l).append (ofLines ls)

theorem ofLines_append (a b : List String) :
    ofLines (a ++ b) = (ofLines a).append (ofLines b) := by
  induction a with
  | nil => rfl
  | cons l a ih => simp [ofLines, ih, append]

end Body
end SchemaDiagram
