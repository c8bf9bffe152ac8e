/-
# Lower case

Every character of a text is replaced by its small form. Capital sigma has two:
the final one at the end of a word, after a cased letter and before none, where
case-ignorable characters do not count. Dotted capital I becomes an i with a
combining dot.

Key definitions: `Text.endsWord`, `Text.lower`, `Text.lowerString`.
-/
import SchemaDiagram.Text.Cased
import SchemaDiagram.Text.Lowercase.Table

namespace SchemaDiagram
namespace Text

/-- The first character that is not case-ignorable is a cased letter. -/
def startsCased (s : List Char) : Bool :=
  match s.dropWhile isCaseIgnorable with
  | c :: _ => isCased c
  | [] => false

/-- A letter between these two texts is the last of its word; the text before
it is given backwards. -/
def endsWord (before after : List Char) : Bool :=
  startsCased before && !startsCased after

/-- The small form of a character between two texts. -/
def small (before : List Char) (c : Char) (after : List Char) : List Char :=
  if c = 'Σ' then [if endsWord before after then 'ς' else 'σ']
  else if c = 'İ' then ['i', '\u0307']
  else [mapCase smallForms c]

/-- The small forms of a text that follows `before`, given backwards. -/
def lowerFrom (before : List Char) : List Char → List Char
  | [] => []
  | c :: s => small before c s ++ lowerFrom (c :: before) s

/-- The text in lower case. -/
def lower (s : List Char) : List Char :=
  lowerFrom [] s

/-- The string in lower case. -/
def lowerString (s : String) : String :=
  String.ofList (lower s.toList)

end Text
end SchemaDiagram
