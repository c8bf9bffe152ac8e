/-
# Upper case

Every character of a text is replaced by its capital form, which may be written
with several characters.

Key definitions: `Text.upper`.
-/
import SchemaDiagram.Text.Loose
import SchemaDiagram.Text.Uppercase.Table

namespace SchemaDiagram
namespace Text

/-- The capital form of a character. -/
def capital (c : Char) : List Char :=
  match longCapitals.find? fun r => r.1 = c.toNat with
  | some r => r.2.map Char.ofNat
  | none => [mapCase capitalForms c]

/-- The capital form of a code point; half of a surrogate pair has no other. -/
def capitalPoint : CodePoint → List CodePoint
  | .char c => (capital c).map .char
  | .half n => [.half n]

/-- The text in upper case. -/
def upper (t : LooseText) : LooseText :=
  ⟨t.points.flatMap capitalPoint⟩

end Text
end SchemaDiagram
