/-
# Lines that open a block

A block opens on a line that holds, apart from blanks around them, a block
kind, blanks, a name and an opening brace. What stands after the brace belongs
to the block.

Key definitions: `Opener`, `Opener.match?`, `Opener.delta`.
-/
import SchemaDiagram.Schema.Basic
import SchemaDiagram.Schema.Comment

namespace SchemaDiagram

/-- A line that opens a block: its kind, its name and the text after the brace. -/
structure Opener where
  kind : BlockKind
  name : String
  rest : List Char
  deriving DecidableEq, Repr

namespace Opener

/-- The rest of the line after the name has to start with a brace. -/
def afterName (kind : BlockKind) (name : List Char) : List Char → Option Opener
  | '{' :: rest => some ⟨kind, String.ofList name, rest⟩
  | _ => none

/-- The opener on a line whose comment is already stripped. -/
def match? (line : List Char) : Option Opener := do
  let text := Text.trim line
  let kind ← BlockKind.ofWord? (String.ofList (text.takeWhile Text.isWord))
  let gap := text.dropWhile Text.isWord
  let named := Text.trimStart gap
  let name := named.takeWhile Text.isWord
  if named.length = gap.length || name.isEmpty then none
  else afterName kind name (Text.trimStart (named.dropWhile Text.isWord))

/-- Opening less closing braces. -/
def delta (s : List Char) : Int :=
  (s.count '{' : Int) - (s.count '}' : Int)

theorem delta_append (s t : List Char) : delta (s ++ t) = delta s + delta t := by
  simp only [delta, List.count_append]
  omega

end Opener
end SchemaDiagram
